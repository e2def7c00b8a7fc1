import Relational.Database.Execution
import Relational.Proofs.Fallible
import Relational.Proofs.Schema
import Relational.Proofs.Value.Key
import Relational.Snapshot

/-!
# Typed rows

A row is typed if it has one cell for each column, and each cell is null or of
the type of its column.  The three ways in which rows are made, by an insertion,
by an update and from a snapshot, all write a cell only after coercing it to the
type of the column at its place, so that they make typed rows only.
-/

namespace Relational

namespace Row

/-- A row with a cell for each column, of the column's type or null. -/
structure Typed (columns : List Column) (row : Row) : Prop where
  width : row.length = columns.length
  fits : ∀ (position : Nat) (column : Column) (value : Value),
    columns[position]? = some column → row[position]? = some value → value.Fits column.type

variable {columns : List Column} {row changed : Row}

theorem Typed.nil : Typed [] [] :=
  ⟨rfl, by simp⟩

/-- A cell that fits one more column makes a longer row that conforms. -/
theorem Typed.cons {column : Column} {value : Value} (fits : value.Fits column.type)
    (typed : Typed columns row) : Typed (column :: columns) (value :: row) := by
  refine ⟨congrArg (· + 1) typed.width, fun position declared cell here there => ?_⟩
  cases position with
  | zero =>
      cases here
      cases there
      exact fits
  | succ position => exact typed.fits position declared cell here there

/-- A row of nulls has every type. -/
theorem typed_blank (columns : List Column) :
    Typed columns (List.replicate columns.length Value.null) := by
  refine ⟨List.length_replicate, fun position column value _ cell => ?_⟩
  rw [List.getElem?_replicate] at cell
  split at cell <;> cases cell
  exact Value.fits_null _

/-- A cell is replaced exactly if its position is one of the row. -/
theorem withCell_eq_ok_iff {position : Nat} {value : Value} :
    Row.withCell row position value = .ok changed ↔
      position < row.length ∧ changed = row.set position value := by
  unfold withCell
  split
  · rename_i inside
    simp [inside, eq_comm]
  · rename_i outside
    simp [outside]

/-- A typed row stays typed with a new cell of the type of its column. -/
theorem Typed.withCell (typed : Typed columns row) {position : Nat} {column : Column}
    {value : Value} (declared : columns[position]? = some column) (fits : value.Fits column.type)
    (replaced : Row.withCell row position value = .ok changed) : Typed columns changed := by
  obtain ⟨inside, rfl⟩ := withCell_eq_ok_iff.mp replaced
  refine ⟨List.length_set.trans typed.width, fun other declared' cell here there => ?_⟩
  by_cases same : position = other
  · subst same
    rw [List.getElem?_set_self inside] at there
    cases there
    cases declared.symm.trans here
    exact fits
  · rw [List.getElem?_set_ne same] at there
    exact typed.fits other declared' cell here there

end Row

/-! ### Rows of updates -/

/-- An update turns a typed row into a typed row. -/
theorem Update.assign_typed {scope : Scope} {schema : Schema} {assignments : List (Nat × Expr)}
    {row changed : Row} (typed : Row.Typed schema.columns row)
    (assigned : assign scope schema assignments row = .ok changed) :
    Row.Typed schema.columns changed := by
  induction assignments generalizing row with
  | nil =>
      cases assigned
      exact typed
  | cons assignment rest ih =>
      obtain ⟨position, content⟩ := assignment
      obtain ⟨column, declared, assigned⟩ := bind_eq_ok.mp assigned
      obtain ⟨value, -, assigned⟩ := bind_eq_ok.mp assigned
      obtain ⟨coerced, coerces, assigned⟩ := bind_eq_ok.mp assigned
      obtain ⟨following, replaced, assigned⟩ := bind_eq_ok.mp assigned
      exact ih (typed.withCell (Schema.columnAt_eq_ok_iff.mp declared)
        (Value.coerce_fits coerces) replaced) assigned

/-! ### Rows of insertions -/

namespace Insert

variable {now : DateTime} {schema : Schema} {row filled : Row}

/-- Filling in values is assigning contents that read no column. -/
theorem fill_eq_assign {targets : List (Nat × Expr)} : fill now schema targets row =
    Update.assign (Scope.empty now schema.name) schema targets row := by
  induction targets generalizing row with
  | nil => rfl
  | cons target rest ih => simp only [fill, bindValue, Update.assign, bind_assoc, ih]

/-- The row that an insertion adds is typed. -/
theorem bind_typed {insertion : Insert} (bound : insertion.bind now schema = .ok row) :
    Row.Typed schema.columns row := by
  obtain ⟨positions, -, bound⟩ := bind_eq_ok.mp bound
  split at bound
  · cases bound
  · split at bound
    · cases bound
    · split at bound
      · cases bound
      · obtain ⟨filled, fills, bound⟩ := bind_eq_ok.mp bound
        obtain ⟨key, -, bound⟩ := bind_eq_ok.mp bound
        split at bound
        · cases bound
        · rw [← pure_eq_ok.mp bound]
          exact Update.assign_typed (Row.typed_blank _) (fill_eq_assign.symm.trans fills)

end Insert

/-! ### Rows of snapshots -/

namespace StoredTable

/-- Cells that are read for columns fit them. -/
theorem cells_typed {stored : NameMap Value} {columns : List Column} {row : Row}
    (read : cells stored columns = .ok row) : Row.Typed columns row := by
  induction columns generalizing row with
  | nil =>
      cases read
      exact Row.Typed.nil
  | cons column rest ih =>
      obtain ⟨cell, coerced, read⟩ := bind_eq_ok.mp read
      obtain ⟨others, read', result⟩ := bind_eq_ok.mp read
      cases result
      exact Row.Typed.cons (Value.coerce_fits coerced) (ih read')

/-- A row read from a snapshot is typed, whatever the snapshot keeps of it. -/
theorem row_typed {schema : Schema} {stored : NameMap Value} {row : Row}
    (read : StoredTable.row schema stored = .ok row) : Row.Typed schema.columns row := by
  obtain ⟨cells, read', result⟩ := bind_eq_ok.mp read
  split at result
  · cases result
  · rw [← pure_eq_ok.mp result]
    exact cells_typed read'

end StoredTable

end Relational
