import Relational.Proofs.Database.Sound

/-!
# Contents of reachable databases

What is stored is what the schemas declare: rows as wide as their tables, cells
of the types of their columns, primary keys that are present and that no
condition finds equal, and index declarations that name existing columns.  This
holds of whatever statements make of an empty database or of any document that
is accepted as a snapshot.
-/

namespace Relational

/-- A table under a name that stores what its schema declares. -/
structure Table.Conforms (name : String) (table : Table) : Prop where
  filed : table.schema.name = name
  one_key : table.schema.columns.countP Column.primaryKey = 1
  columns_differ : table.schema.columnNames.Nodup
  indexes_differ : (table.schema.indexes.map IndexDeclaration.name).Nodup
  indexes_on_columns : ∀ declared ∈ table.schema.indexes,
    declared.column ∈ table.schema.columnNames
  ascending : Ascending table.rows
  width : ∀ entry ∈ table.rows, entry.2.length = table.schema.columns.length
  typed : ∀ entry ∈ table.rows, ∀ (position : Nat) (column : Column) (value : Value),
    table.schema.columns[position]? = some column → entry.2[position]? = some value →
      value.Fits column.type
  key_present : ∀ entry ∈ table.rows, ∃ key,
    entry.2[table.schema.keyPosition]? = some key ∧ key.isNull = false
  keys_differ : ∀ first ∈ table.rows, ∀ second ∈ table.rows, ∀ key key' : Value,
    first.2[table.schema.keyPosition]? = some key →
    second.2[table.schema.keyPosition]? = some key' →
    Expr.operate .equal key key' = .ok (.boolean true) → first = second

/-- Primary keys that a condition finds equal are of one row. -/
theorem Table.WellTyped.entry_eq_of_equal {table : Table} (wellTyped : table.WellTyped)
    {first second : RowId × Row} (member : first ∈ table.rows) (member' : second ∈ table.rows)
    {key key' : Value} (cell : first.2[table.schema.keyPosition]? = some key)
    (cell' : second.2[table.schema.keyPosition]? = some key')
    (equal : Expr.operate .equal key key' = .ok (.boolean true)) : first = second := by
  have declared := List.getElem?_eq_getElem wellTyped.valid.keyPosition_lt
  have fits := (wellTyped.typed first member).fits _ _ _ declared cell
  have fits' := (wellTyped.typed second member').fits _ _ _ declared cell'
  have same := Value.key_eq_of_comparison_eq fits fits' (Expr.comparison_of_operate equal rfl)
  have id : first.1 = second.1 := wellTyped.keys_differ first member second member' (by
    rw [Row.key?, Row.key?, cell, cell']
    exact same)
  have found : viewOf table.rows first.1 = some first.2 := wellTyped.viewOf_of_mem member
  have found' : viewOf table.rows second.1 = some second.2 := wellTyped.viewOf_of_mem member'
  rw [id] at found
  exact Prod.ext id (Option.some.inj (found.symm.trans found'))

/-- A well-typed table under its own name conforms to its schema. -/
theorem Table.WellTyped.conforms {table : Table} (wellTyped : table.WellTyped) {name : String}
    (named : table.schema.name = name) : table.Conforms name where
  filed := named
  one_key := wellTyped.valid.one_key
  columns_differ := wellTyped.valid.names_differ
  indexes_differ := wellTyped.indexesValid.names_differ
  indexes_on_columns := wellTyped.indexesValid.on_columns
  ascending := wellTyped.ascending
  width := wellTyped.width
  typed := fun entry member => (wellTyped.typed entry member).fits
  key_present := wellTyped.toSound.consistent.key_present
  keys_differ := fun _ member _ member' _ _ cell cell' equal =>
    wellTyped.entry_eq_of_equal member member' cell cell' equal

namespace Database

/-- Every table of a reachable database stores what its schema declares. -/
theorem Reachable.tables_conform {database : Database} (reachable : database.Reachable) :
    ∀ entry ∈ database.tables.entries, entry.2.Conforms entry.1 := by
  intro entry member
  have sound := reachable.sound
  have filed := sound.ordered.get?_eq_some_iff.mpr member
  exact (sound.wellTyped _ _ filed).conforms (sound.named _ _ filed)

/-- The plant's tables conform to their schemas, with a key that is undefined among them. -/
theorem plant_conforms : plant.Reachable ∧
    ∀ entry ∈ plant.tables.entries, entry.2.Conforms entry.1 :=
  ⟨plant_reachable, plant_reachable.tables_conform⟩

end Database

end Relational
