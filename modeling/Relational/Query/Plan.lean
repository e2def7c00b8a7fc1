import Relational.Expr
import Relational.Table

/-!
# Access plans

Before a condition is evaluated, a plan says which rows it is evaluated on: all
rows of the table, or those that an index finds for a value which one of the
condition's conjuncts asks a column to equal.  Any usable index is preferred to
visiting every row, and among indexes the one with the lowest estimated cost,
the first of several.
-/

namespace Relational

/-- How the candidates for a condition are found. -/
inductive Access where
  | allRows
  | byIndex (column : String) (value : Value)
deriving DecidableEq

/-- An access with what it is estimated to cost. -/
structure Plan where
  access : Access
  cost : Binary64
  /-- The estimated number of candidates. -/
  rows : Nat
deriving DecidableEq

namespace Expr

/-- The terms of a chain of `AND`, from left to right. -/
def conjuncts : Expr → List Expr
  | .binary .and left right => conjuncts left ++ conjuncts right
  | expression => [expression]

/-- The column and the value other than null that a condition says are equal,
if it says just that. -/
def equality? : Expr → Option (String × Value)
  | .binary .equal (.column name) (.literal value) =>
    if value.isNull then none else some (name, value)
  | .binary .equal (.literal value) (.column name) =>
    if value.isNull then none else some (name, value)
  | _ => none

end Expr

namespace IndexStatistics

/-- The mean number of rows under a key, rounded up. -/
def rowsPerKey (statistics : IndexStatistics) : Nat :=
  if statistics.distinctKeys = 0 then 0
  else (statistics.entries + statistics.distinctKeys - 1) / statistics.distinctKeys

end IndexStatistics

namespace Plan

/-- The cost of visiting some rows. -/
def visitCost (rows : Nat) : Binary64 :=
  Binary64.ofNat rows * 0.001

/-- The cost of finding an index entry. -/
def probeCost : Binary64 := 0.005

/-- The plan that visits every row. -/
def visitAll (table : Table) : Plan :=
  ⟨.allRows, visitCost table.rows.length, table.rows.length⟩

/-- The plan that looks a value up in the index on a column, if there is one. -/
def probe? (table : Table) (column : String) (value : Value) : Option Plan :=
  (table.statistics? column).map fun statistics =>
    ⟨.byIndex column value, probeCost + visitCost statistics.rowsPerKey, statistics.rowsPerKey⟩

/-- The first plan of a list that no other one undercuts. -/
def cheapest? : List Plan → Option Plan
  | [] => none
  | plan :: rest =>
    match cheapest? rest with
    | none => some plan
    | some other =>
      if other.cost.orderKey < plan.cost.orderKey then some other
      else some plan

/-- The plans that look up a conjunct of a condition. -/
def probes (table : Table) (condition : Expr) : List Plan :=
  (condition.conjuncts.filterMap Expr.equality?).filterMap fun (column, value) =>
    probe? table column value

/-- The plan for a condition on a table. -/
def choose (table : Table) : Option Expr → Plan
  | none => visitAll table
  | some condition => (cheapest? (probes table condition)).getD (visitAll table)

end Plan

namespace Access

/-- The candidates that an access finds, in ascending order of identity. -/
def candidates (table : Table) : Access → List (RowId × Row)
  | .allRows => table.rows
  | .byIndex column value => (table.lookup? column value).getD table.rows

end Access

end Relational
