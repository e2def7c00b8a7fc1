import Relational.Schema
import Relational.Value.Key

/-!
# Groups of rows

Rows are grouped by the keys of their cells in some columns; nulls group
together.  Groups are listed in the order in which their first rows come, and
show the cells of those first rows.
-/

namespace Relational

/-- The rows that share a group, with the cells they are grouped by. -/
structure Group where
  /-- The cells of the first row. -/
  key : List Value
  rows : List (RowId × Row)

namespace Group

/-- Two lists of cells belong to the same group. -/
def alike (cells others : List Value) : Bool :=
  cells.map Key.ofValue? = others.map Key.ofValue?

/-- Groups with one more row, which joins its group or starts a new one. -/
def addRow (cells : List Value) (entry : RowId × Row) : List Group → List Group
  | [] => [⟨cells, [entry]⟩]
  | group :: rest =>
    if alike group.key cells then { group with rows := group.rows ++ [entry] } :: rest
    else group :: addRow cells entry rest

/-- The groups of some rows after those of earlier rows. -/
def extend (positions : List Nat) (groups : List Group) :
    List (RowId × Row) → Except Error (List Group)
  | [] => .ok groups
  | entry :: rest => do
    let cells ← positions.mapM (Row.cell entry.2)
    extend positions (addRow cells entry groups) rest

/-- The groups of some rows by their cells at some positions. -/
def partition (positions : List Nat) (rows : List (RowId × Row)) : Except Error (List Group) :=
  extend positions [] rows

end Group

end Relational
