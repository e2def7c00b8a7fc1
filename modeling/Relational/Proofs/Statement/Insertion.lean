import Relational.Proofs.Statement.Assignment
import Relational.Proofs.Table.Operation

/-!
# What an insertion says of its row

An insertion names each column once, in whatever order, and gives it a value.
The row that it adds has these values in the order of the schema, each coerced
to the type of its column.
-/

namespace Relational

namespace Insert

/-- A value is given for a column. -/
def Gives (insertion : Insert) (column : String) (content : Expr) : Prop :=
  (column, content) ∈ insertion.columns.zip insertion.values

/-- The row that an insertion describes: each column is named once, and its cell
is the value given for it, coerced to the type of the column. -/
structure Describes (now : DateTime) (schema : Schema) (insertion : Insert) (row : Row) :
    Prop where
  names_differ : insertion.columns.Nodup
  width : row.length = schema.columns.length
  cells : ∀ (position : Nat) (column : Column), schema.columns[position]? = some column →
    ∃ content value cell, insertion.Gives column.name content ∧
      content.evaluate (Scope.empty now schema.name) = .ok value ∧
      value.coerce column.type column.name = .ok cell ∧ row[position]? = some cell

variable {now : DateTime} {schema : Schema} {insertion : Insert} {row filled : Row}

/-- At most one value is given for a column that is named once. -/
theorem Gives.unique {column : String} {content content' : Expr}
    (gives : insertion.Gives column content) (gives' : insertion.Gives column content')
    (differ : insertion.columns.Nodup) : content' = content := by
  obtain ⟨index, found⟩ := List.mem_iff_getElem?.mp gives
  obtain ⟨index', found'⟩ := List.mem_iff_getElem?.mp gives'
  obtain ⟨named, given⟩ := List.getElem?_zip_eq_some.mp found
  obtain ⟨named', given'⟩ := List.getElem?_zip_eq_some.mp found'
  have inside := (List.getElem?_eq_some_iff.mp named).1
  have same : index = index' := (List.getElem?_inj inside differ).mp (named.trans named'.symm)
  rw [← same, given] at given'
  exact (Option.some.inj given').symm

/-- What binding an insertion has made sure of when it succeeds. -/
theorem filled_of_bind (bound : insertion.bind now schema = .ok row) :
    ∃ positions, insertion.columns.mapM schema.position = .ok positions ∧
      insertion.columns.length = insertion.values.length ∧ insertion.columns.Nodup ∧
      (∀ column ∈ schema.columns, column.name ∈ insertion.columns) ∧
      fill now schema (positions.zip insertion.values)
        (List.replicate schema.columns.length Value.null) = .ok row ∧
      ∃ key, row[schema.keyPosition]? = some key ∧ key.isNull = false := by
  obtain ⟨positions, located, bound⟩ := bind_eq_ok.mp bound
  refine ⟨positions, located, ?_⟩
  split at bound
  · cases bound
  · rename_i even
    split at bound
    · cases bound
    · rename_i distinct
      split at bound
      · cases bound
      · rename_i complete
        obtain ⟨filled, fills, bound⟩ := bind_eq_ok.mp bound
        obtain ⟨key, found, bound⟩ := bind_eq_ok.mp bound
        split at bound
        · cases bound
        · rename_i present
          cases bound
          refine ⟨not_not.mp even, ((Schema.firstRepeated?_eq_none_iff _ _).mp distinct).1,
            fun column member => ?_, fills, key, Table.cell_eq_ok_iff.mp found,
            Bool.not_eq_true _ ▸ present⟩
          simpa using List.find?_eq_none.mp complete column member

/-- The row that an insertion adds is the one that it describes. -/
theorem bind_describes (valid : schema.Valid) (bound : insertion.bind now schema = .ok row) :
    insertion.Describes now schema row := by
  have typed := bind_typed bound
  obtain ⟨positions, located, even, differ, complete, fills, -⟩ := filled_of_bind bound
  have follow := mapM_eq_ok.mp located
  have targets : (positions.zip insertion.values).map Prod.fst = positions :=
    List.map_fst_zip (by rw [← follow.length_eq, even])
  have apart : ((positions.zip insertion.values).map Prod.fst).Nodup := by
    rw [targets]
    exact (List.rel_nodup schema.position_biUnique follow).mp differ
  obtain ⟨-, each⟩ := Update.assign_eq_ok apart (fill_eq_assign.symm.trans fills)
  refine ⟨differ, typed.width, fun position column declared => ?_⟩
  obtain ⟨index, named⟩ := List.mem_iff_getElem?.mp
    (complete column (List.mem_of_getElem? declared))
  obtain ⟨content, given⟩ : ∃ content, insertion.values[index]? = some content :=
    ⟨_, List.getElem?_eq_getElem (even ▸ (List.getElem?_eq_some_iff.mp named).1)⟩
  have gives : insertion.Gives column.name content :=
    List.mem_iff_getElem?.mpr ⟨index, List.getElem?_zip_eq_some.mpr ⟨named, given⟩⟩
  obtain ⟨other, found, among⟩ := exists_mem_zip_of_forall₂ follow gives
  have found' := Schema.position_eq_ok_iff.mpr (valid.position?_of_columns declared)
  cases found.symm.trans found'
  obtain ⟨column', cell, declared', ⟨value, evaluates, coerces⟩, stands⟩ := each _ among
  cases declared.symm.trans declared'
  exact ⟨content, value, cell, gives, evaluates, coerces, stands⟩

/-- The cell of a column for which a literal is given. -/
theorem Describes.cell_of_literal (describes : insertion.Describes now schema row)
    {position : Nat} {column : Column} (declared : schema.columns[position]? = some column)
    {literal : Value} (gives : insertion.Gives column.name (.literal literal)) :
    ∃ cell, literal.coerce column.type column.name = .ok cell ∧ row[position]? = some cell := by
  obtain ⟨content, value, cell, gives', evaluates, coerces, stands⟩ :=
    describes.cells position column declared
  cases gives.unique gives' describes.names_differ
  cases evaluates
  exact ⟨cell, coerces, stands⟩

end Insert

end Relational
