import Relational.Query.Accumulator
import Relational.Query.Grouping
import Relational.Query.Plan
import Relational.Statement.Binding

/-!
# Query results

A bound query is answered in steps: the rows that meet its condition are found,
grouped if it asks for groups, projected to the select list, filtered by
`HAVING`, sorted, and cut to the page that `OFFSET` and `LIMIT` ask for.
-/

namespace Relational

namespace Table

/-- The candidates that meet a condition, in their order. -/
def filterRows (now : DateTime) (schema : Schema) (condition : Expr) :
    List (RowId × Row) → Except Error (List (RowId × Row))
  | [] => .ok []
  | entry :: rest => do
    let met ← condition.isMet (Scope.ofRow now schema entry.2)
    let others ← filterRows now schema condition rest
    return if met then entry :: others else others

/-- The rows of a table that meet a bound condition, in ascending order of
identity. -/
def matchingRows (now : DateTime) (table : Table) (condition : Option Expr) :
    Except Error (List (RowId × Row)) :=
  let candidates := (Plan.choose table condition).access.candidates table
  match condition with
  | none => .ok candidates
  | some expression => filterRows now table.schema expression candidates

end Table

namespace Scope

/-- The scope of a finished group: its grouped columns, then the labels of its
result, and its aggregates. -/
def ofGroup (now : DateTime) (table : String) (groupedBy : List String) (key : List Value)
    (calls : List Expr) (values : List Value) (labels : List (String × Value)) : Scope where
  column := fun name =>
    match groupedBy.findIdx? (· = name) with
    | some position => Row.cell key position
    | none =>
      match labels.lookup name with
      | some value => .ok value
      | none => .error (.columnNotFound table name)
  aggregate := fun call =>
    match calls.findIdx? fun known => known.same call with
    | some position => Row.cell values position
    | none => noAggregate call
  now := now

end Scope

/-- A row of a result, with the values that it is sorted by. -/
structure OutputRow where
  sortedBy : List Value
  cells : List Value

namespace OutputRow

/-- The order of two rows by their criteria, the first deciding criterion
first. -/
def compareBy : List SortItem → List Value → List Value → Ordering
  | item :: items, x :: xs, y :: ys =>
    let order := x.sortCompare y
    (if item.ascending then order else order.swap).then (compareBy items xs ys)
  | _, _, _ => .eq

/-- Rows in the order of their criteria, rows without a difference staying in
their order. -/
def sort (items : List SortItem) (rows : List OutputRow) : List OutputRow :=
  rows.mergeSort fun a b => compareBy items a.sortedBy b.sortedBy != .gt

end OutputRow

namespace Select

/-- The names of the result's columns: an item's label, or else its text. -/
def columnNames (schema : Schema) (query : Select) : List String :=
  query.items.flatMap fun item =>
    match item with
    | .all => schema.columnNames
    | .expression _ (some label) => [label]
    | .expression expression none => [expression.text]

/-- A list of expressions with those aggregates of an expression that it does
not have yet. -/
def addAggregates (known : List Expr) (expression : Expr) : List Expr :=
  (expression.nodes.filter Expr.isAggregate).foldl
    (fun calls call => if calls.any fun other => other.same call then calls else calls ++ [call])
    known

/-- The different aggregates of a query, in the order in which they are
written. -/
def aggregates (query : Select) : List Expr :=
  (query.items.filterMap SelectItem.expression? ++ query.having.toList).foldl addAggregates []

/-- The cells of an item.  Only single rows have all columns to show. -/
def projectItem (scope : Scope) (row : Option Row) : SelectItem → Except Error (List Value)
  | .all =>
    match row with
    | some cells => .ok cells
    | none => .error (.invalidQuery .starWithAggregation)
  | .expression expression _ => do
    let value ← expression.evaluate scope
    return [value]

/-- The cells of a select list. -/
def project (scope : Scope) (row : Option Row) : List SelectItem → Except Error (List Value)
  | [] => .ok []
  | item :: rest => do
    let cells ← projectItem scope row item
    let others ← project scope row rest
    return cells ++ others

/-- The value that a criterion sorts by: the result column of its name, or else
the column of the scope. -/
def sortValue (scope : Scope) (columns : List String) (cells : List Value) (item : SortItem) :
    Except Error Value :=
  match columns.findIdx? (· = item.column) with
  | some position => Row.cell cells position
  | none => scope.column item.column

/-- The values that the query's criteria sort by. -/
def sortValues (query : Select) (scope : Scope) (columns : List String) (cells : List Value) :
    Except Error (List Value) :=
  (query.orderBy.getD []).mapM (sortValue scope columns cells)

/-- The result row of a row of the table. -/
def rowOutput (now : DateTime) (schema : Schema) (query : Select) (row : Row) :
    Except Error OutputRow := do
  let scope := Scope.ofRow now schema row
  let cells ← project scope (some row) query.items
  let sortedBy ← query.sortValues scope (query.columnNames schema) cells
  return ⟨sortedBy, cells⟩

/-- The value that an aggregate takes in for a row; counting rows takes in
anything but null. -/
def aggregateInput (now : DateTime) (schema : Schema) (argument : Option Expr)
    (entry : RowId × Row) : Except Error Value :=
  match argument with
  | some expression => expression.evaluate (Scope.ofRow now schema entry.2)
  | none => .ok (.boolean true)

/-- The value of an aggregate over some rows. -/
def aggregateValue (now : DateTime) (schema : Schema) (rows : List (RowId × Row)) :
    Expr → Except Error Value
  | .aggregate function argument distinct => do
    let final ← Accumulator.feedEach (aggregateInput now schema argument)
      (Accumulator.start function distinct) rows
    return final.result
  | expression => .error (.invalidQuery (.notAnAggregate expression.text))

/-- The result row of a group, unless `HAVING` excludes it. -/
def groupOutput (now : DateTime) (schema : Schema) (query : Select) (group : Group) :
    Except Error (Option OutputRow) := do
  let calls := query.aggregates
  let values ← calls.mapM (aggregateValue now schema group.rows)
  let groupedBy := query.groupBy.getD []
  let bare := Scope.ofGroup now schema.name groupedBy group.key calls values []
  let cells ← project bare none query.items
  let columns := query.columnNames schema
  let scope :=
    Scope.ofGroup now schema.name groupedBy group.key calls values (columns.zip cells)
  let shown ←
    match query.having with
    | some condition => condition.isMet scope
    | none => .ok true
  if shown then
    let sortedBy ← query.sortValues scope columns cells
    return some ⟨sortedBy, cells⟩
  else
    return none

/-- The groups of some rows.  Aggregates without grouping have all rows as
their only group. -/
def groups (schema : Schema) (query : Select) (rows : List (RowId × Row)) :
    Except Error (List Group) :=
  match query.groupBy with
  | some columns => do
    let positions ← columns.mapM schema.position
    Group.partition positions rows
  | none => .ok [⟨[], rows⟩]

/-- The result rows of a query before sorting. -/
def outputRows (now : DateTime) (schema : Schema) (query : Select) (rows : List (RowId × Row)) :
    Except Error (List OutputRow) :=
  if query.groupBy.isSome || !query.aggregates.isEmpty then do
    let formed ← query.groups schema rows
    let outputs ← formed.mapM (groupOutput now schema query)
    return outputs.reduceOption
  else
    rows.mapM fun entry => rowOutput now schema query entry.2

/-- The page of a list that a query asks for. -/
def page {α : Type} (query : Select) (rows : List α) : List α :=
  let following := rows.drop (query.offset.getD 0)
  match query.limit with
  | some most => following.take most
  | none => following

/-- The rows that answer a bound query. -/
def answer (now : DateTime) (table : Table) (query : Select) : Except Error (List Row) := do
  let rows ← table.matchingRows now query.condition
  let outputs ← query.outputRows now table.schema rows
  let sorted :=
    match query.orderBy with
    | some items => OutputRow.sort items outputs
    | none => outputs
  return (query.page sorted).map OutputRow.cells

end Select

end Relational
