import Relational.Proofs.Fallible
import Relational.Proofs.Index
import Relational.Proofs.Schema
import Relational.Table

/-!
# Tables in good order

A table is sound if its rows ascend below the next identity, are as wide as its
schema, have primary keys that differ by their keys, and if its indexes are those
that its schema asks for, each reflecting the rows.  Every operation on a table
keeps it sound.

Adding, replacing and removing a row have the same shape: the table says
something else of one identity, and every index is changed to reflect that.
What has to be checked of the new row is checked once for all of them.
-/

namespace Relational

namespace Table

/-- A table whose rows and indexes belong together. -/
structure Sound (table : Table) : Prop where
  valid : table.schema.Valid
  indexesValid : table.schema.IndexesValid
  ascending : Ascending table.rows
  below : ∀ entry ∈ table.rows, entry.1 < table.nextId
  width : ∀ entry ∈ table.rows, entry.2.length = table.schema.columns.length
  keyed : ∀ entry ∈ table.rows, (entry.2.key? table.schema.keyPosition).isSome
  keys_differ : ∀ first ∈ table.rows, ∀ second ∈ table.rows,
    first.2.key? table.schema.keyPosition = second.2.key? table.schema.keyPosition →
      first.1 = second.1
  indexes_differ : (table.indexes.map Index.column).Nodup
  indexed_iff : ∀ column, column ∈ table.indexes.map Index.column ↔
    column = table.schema.keyName ∨ column ∈ table.schema.indexes.map IndexDeclaration.column
  positions : ∀ index ∈ table.indexes,
    table.schema.position? index.column = some index.position
  reflects : ∀ index ∈ table.indexes, index.Reflects (viewOf table.rows)

/-- What may stand under an identity: a row as wide as the schema whose primary
key is present and is not the key of a row of another identity. -/
structure Admits (table : Table) (id : RowId) (row : Row) : Prop where
  width : row.length = table.schema.columns.length
  keyed : (row.key? table.schema.keyPosition).isSome
  unique : ∀ other ≠ id, ∀ kept, viewOf table.rows other = some kept →
    kept.key? table.schema.keyPosition ≠ row.key? table.schema.keyPosition

/-- A change at one identity that the indexes follow. -/
structure Rewrites (table : Table) (id : RowId) (content : Option Row) (changed : Table) :
    Prop where
  schema : changed.schema = table.schema
  ascending : Ascending changed.rows
  view : viewOf changed.rows = Function.update (viewOf table.rows) id content
  indexes : ∃ refile : Index → Index, changed.indexes = table.indexes.map refile ∧
    ∀ index ∈ table.indexes, index.SameColumn (refile index) ∧
      (refile index).Reflects (viewOf changed.rows)

variable {table changed : Table} {id : RowId} {row before : Row}

theorem row?_eq_viewOf (table : Table) (id : RowId) : table.row? id = viewOf table.rows id :=
  rfl

namespace Sound

theorem mem_of_viewOf (sound : table.Sound) (found : viewOf table.rows id = some row) :
    (id, row) ∈ table.rows :=
  sound.ascending.lookup_eq_some_iff.mp found

theorem viewOf_of_mem (sound : table.Sound) (member : (id, row) ∈ table.rows) :
    viewOf table.rows id = some row :=
  sound.ascending.lookup_eq_some_iff.mpr member

/-- No row has the next identity. -/
theorem viewOf_nextId (sound : table.Sound) : viewOf table.rows table.nextId = none := by
  cases found : viewOf table.rows table.nextId with
  | none => rfl
  | some row => exact absurd (sound.below _ (sound.mem_of_viewOf found)) (lt_irrefl _)

/-- An index is the only one on its column. -/
theorem indexOn?_of_mem (sound : table.Sound) {index : Index} (member : index ∈ table.indexes) :
    table.indexOn? index.column = some index := by
  cases found : table.indexOn? index.column with
  | none => exact absurd (decide_eq_true rfl) (List.find?_eq_none.mp found index member)
  | some other =>
      have named : other.column = index.column := by simpa using List.find?_some found
      exact congrArg some (List.inj_on_of_nodup_map sound.indexes_differ
        (List.mem_of_find?_eq_some found) member named)

theorem mem_of_indexOn? {column : String} {index : Index}
    (found : table.indexOn? column = some index) : index ∈ table.indexes ∧ index.column = column :=
  ⟨List.mem_of_find?_eq_some found, by simpa using List.find?_some found⟩

/-- The primary key has an index. -/
theorem keyIndex (sound : table.Sound) :
    ∃ index ∈ table.indexes, table.indexOn? table.schema.keyName = some index ∧
      index.position = table.schema.keyPosition := by
  obtain ⟨index, member, named⟩ := List.mem_map.mp ((sound.indexed_iff _).mpr (Or.inl rfl))
  refine ⟨index, member, named ▸ sound.indexOn?_of_mem member, ?_⟩
  exact Option.some.inj ((sound.positions index member).symm.trans
    (named ▸ sound.valid.position?_keyName))

theorem position_lt (sound : table.Sound) {index : Index} (member : index ∈ table.indexes) :
    index.position < table.schema.columns.length :=
  Schema.position?_lt (sound.positions index member)

/-! ### One change -/

/-- A row of the changed table is the new one, or was there before under another
identity. -/
theorem cases_of_mem {content : Option Row} (sound : table.Sound)
    (rewrites : table.Rewrites id content changed) (entry : RowId × Row)
    (member : entry ∈ changed.rows) :
    (entry.1 = id ∧ content = some entry.2) ∨ entry.1 ≠ id ∧ entry ∈ table.rows := by
  obtain ⟨other, kept⟩ := entry
  have found := rewrites.ascending.lookup_eq_some_iff.mpr member
  change viewOf changed.rows other = some kept at found
  rw [rewrites.view] at found
  by_cases here : other = id
  · subst here
    exact Or.inl ⟨rfl, by simpa using found⟩
  · rw [Function.update_of_ne here] at found
    exact Or.inr ⟨here, sound.mem_of_viewOf found⟩

/-- The row of a changed identity has another key than the rows of all others. -/
theorem key_ne_of_rewrites {content : Option Row} (sound : table.Sound)
    (rewrites : table.Rewrites id content changed)
    (admitted : ∀ row, content = some row → table.Admits id row) {first second : RowId × Row}
    (member : first ∈ changed.rows) (member' : second ∈ changed.rows) (here : first.1 = id)
    (there : second.1 ≠ id) :
    first.2.key? table.schema.keyPosition ≠ second.2.key? table.schema.keyPosition := by
  rcases sound.cases_of_mem rewrites first member with ⟨-, placed⟩ | ⟨elsewhere, -⟩
  · rcases sound.cases_of_mem rewrites second member' with ⟨here', -⟩ | ⟨-, old⟩
    · exact absurd here' there
    · exact ((admitted _ placed).unique second.1 there second.2 (sound.viewOf_of_mem old)).symm
  · exact absurd here elsewhere

/-- Different rows keep different keys. -/
theorem keys_differ_of_rewrites {content : Option Row} (sound : table.Sound)
    (rewrites : table.Rewrites id content changed)
    (admitted : ∀ row, content = some row → table.Admits id row) :
    ∀ first ∈ changed.rows, ∀ second ∈ changed.rows,
      first.2.key? table.schema.keyPosition = second.2.key? table.schema.keyPosition →
        first.1 = second.1 := by
  intro first member second member' same
  by_cases here : first.1 = id <;> by_cases there : second.1 = id
  · exact here.trans there.symm
  · exact absurd same (sound.key_ne_of_rewrites rewrites admitted member member' here there)
  · exact absurd same.symm (sound.key_ne_of_rewrites rewrites admitted member' member there here)
  · rcases sound.cases_of_mem rewrites first member with ⟨here', -⟩ | ⟨-, old⟩
    · exact absurd here' here
    · rcases sound.cases_of_mem rewrites second member' with ⟨there', -⟩ | ⟨-, old'⟩
      · exact absurd there' there
      · exact sound.keys_differ first old second old' same

/-- A change that puts at most an admissible row under an identity below the
next one keeps the table sound. -/
theorem of_rewrites {content : Option Row} (sound : table.Sound)
    (rewrites : table.Rewrites id content changed) (later : table.nextId ≤ changed.nextId)
    (admitted : ∀ row, content = some row → table.Admits id row ∧ id < changed.nextId) :
    changed.Sound := by
  obtain ⟨refile, refiled, follows⟩ := rewrites.indexes
  have columns : changed.indexes.map Index.column = table.indexes.map Index.column := by
    rw [refiled, List.map_map]
    exact List.map_congr_left fun index member => (follows index member).1.column
  -- Schema and columns of indexes stay; a row is the admitted one or was there before.
  constructor
  · rw [rewrites.schema]
    exact sound.valid
  · rw [rewrites.schema]
    exact sound.indexesValid
  · exact rewrites.ascending
  · intro entry member
    rcases sound.cases_of_mem rewrites entry member with ⟨here, placed⟩ | ⟨-, old⟩
    · rw [here]
      exact (admitted _ placed).2
    · exact (sound.below entry old).trans_le later
  · rw [rewrites.schema]
    intro entry member
    rcases sound.cases_of_mem rewrites entry member with ⟨-, placed⟩ | ⟨-, old⟩
    · exact (admitted _ placed).1.width
    · exact sound.width entry old
  · rw [rewrites.schema]
    intro entry member
    rcases sound.cases_of_mem rewrites entry member with ⟨-, placed⟩ | ⟨-, old⟩
    · exact (admitted _ placed).1.keyed
    · exact sound.keyed entry old
  · rw [rewrites.schema]
    exact sound.keys_differ_of_rewrites rewrites fun row placed => (admitted row placed).1
  · rw [columns]
    exact sound.indexes_differ
  · rw [columns, rewrites.schema]
    exact sound.indexed_iff
  · rw [rewrites.schema]
    intro index member
    rw [refiled] at member
    obtain ⟨original, member', rfl⟩ := List.mem_map.mp member
    rw [(follows original member').1.column, (follows original member').1.position]
    exact sound.positions original member'
  · intro index member
    rw [refiled] at member
    obtain ⟨original, member', rfl⟩ := List.mem_map.mp member
    exact (follows original member').2

/-! ### A change of indexes only -/

/-- A table whose indexes changed, and nothing else, is sound if its indexes are
those that it declares and each reflects the rows. -/
theorem of_sameRows (sound : table.Sound) (columns : changed.schema.columns = table.schema.columns)
    (rows : changed.rows = table.rows) (nextId : changed.nextId = table.nextId)
    (indexesValid : changed.schema.IndexesValid)
    (indexes_differ : (changed.indexes.map Index.column).Nodup)
    (indexed_iff : ∀ column, column ∈ changed.indexes.map Index.column ↔
      column = changed.schema.keyName ∨
        column ∈ changed.schema.indexes.map IndexDeclaration.column)
    (follows : ∀ index ∈ changed.indexes,
      changed.schema.position? index.column = some index.position ∧
        index.Reflects (viewOf changed.rows)) : changed.Sound := by
  have keyPosition : changed.schema.keyPosition = table.schema.keyPosition := by
    rw [Schema.keyPosition, columns]
    rfl
  constructor
  · constructor
    · rw [Schema.columnNames, columns]
      exact sound.valid.names_differ
    · rw [columns]
      exact sound.valid.one_key
  · exact indexesValid
  · rw [rows]
    exact sound.ascending
  · rw [rows, nextId]
    exact sound.below
  · rw [rows, columns]
    exact sound.width
  · rw [rows, keyPosition]
    exact sound.keyed
  · rw [rows, keyPosition]
    exact sound.keys_differ
  · exact indexes_differ
  · exact indexed_iff
  · exact fun index member => (follows index member).1
  · exact fun index member => (follows index member).2

end Sound

end Table

end Relational
