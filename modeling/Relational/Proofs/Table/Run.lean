import Relational.Proofs.Table.Rollback

/-!
# Runs of operations on a table

Whatever is done to a table, in whatever order and with whatever success, its
rows, its counter and its indexes keep belonging together.  The indexes answer
as if they were computed from the rows at the moment of the question.

An operation that fails leaves the table as it is, except for a replay of a
change log, which keeps what it reversed before it had to stop.
-/

namespace Relational

namespace Table

/-- What can be done to a table. -/
inductive Operation where
  | insert (row : Row)
  | update (id : RowId) (row : Row)
  | delete (id : RowId)
  | restore (id : RowId) (row : Row)
  | createIndex (declared : IndexDeclaration)
  | rollback (log : ChangeLog)

namespace Operation

/-- The rows that an operation brings along are as wide as the table.  An
insertion checks that by itself. -/
def Wide (width : Nat) : Operation → Prop
  | .update _ row => row.length = width
  | .restore _ row => row.length = width
  | .rollback log => ∀ change ∈ log, change.row.length = width
  | .insert _ => True
  | .delete _ => True
  | .createIndex _ => True

end Operation

/-- The table after an attempt: what was attempted if it succeeded, and else the
table of before. -/
def attempted (table : Table) : Except Error Table → Table
  | .ok changed => changed
  | .error _ => table

/-- The table after an operation. -/
def perform (table : Table) : Operation → Table
  | .insert row => table.attempted ((table.insert row).map Prod.fst)
  | .update id row => table.attempted ((table.update id row).map Prod.fst)
  | .delete id => table.attempted ((table.delete id).map Prod.fst)
  | .restore id row => table.attempted (table.restore id row)
  | .createIndex declared => table.attempted (table.createIndex declared)
  | .rollback log => (ChangeLog.rollback table log).table

/-- The table after a series of operations. -/
def run (table : Table) (operations : List Operation) : Table :=
  operations.foldl perform table

/-- The rows ascend below the next identity and have different primary keys,
exactly the primary key and the columns with a declared index are indexed, and
every index answers what the rows say. -/
structure Consistent (table : Table) : Prop where
  ascending : Ascending table.rows
  below : ∀ entry ∈ table.rows, entry.1 < table.nextId
  key_present : ∀ entry ∈ table.rows, ∃ value,
    entry.2[table.schema.keyPosition]? = some value ∧ value.isNull = false
  keys_differ : ∀ first ∈ table.rows, ∀ second ∈ table.rows, first.1 ≠ second.1 →
    first.2.key? table.schema.keyPosition ≠ second.2.key? table.schema.keyPosition
  indexed_iff : ∀ column, (table.indexOn? column).isSome ↔ column = table.schema.keyName ∨
    column ∈ table.schema.indexes.map IndexDeclaration.column
  answers : ∀ column index, table.indexOn? column = some index →
    ∃ position, table.schema.position? column = some position ∧
      (∀ value, index.lookup value =
        (table.rows.filter fun entry => entry.2.isUnder position value).map Prod.fst) ∧
      index.statistics.entries =
        table.rows.countP (fun entry => entry.2[position]?.any fun value => !value.isNull) ∧
      index.statistics.distinctKeys =
        (table.rows.filterMap fun entry => entry.2.key? position).dedup.length

/-- A cell has a key exactly if it is not null. -/
theorem isSome_key? (row : Row) (position : Nat) :
    (row.key? position).isSome = row[position]?.any fun value => !value.isNull := by
  unfold Row.key?
  cases row[position]? with
  | none => rfl
  | some value => exact Key.isSome_ofValue? value

variable {table : Table}

/-- A sound table is consistent. -/
theorem Sound.consistent (sound : table.Sound) : table.Consistent where
  ascending := sound.ascending
  below := sound.below
  key_present := by
    intro entry member
    have keyed := sound.keyed entry member
    rw [isSome_key?, Option.any_eq_true] at keyed
    obtain ⟨value, cell, present⟩ := keyed
    exact ⟨value, cell, by simpa using present⟩
  keys_differ := fun first member second member' differ same =>
    differ (sound.keys_differ first member second member' same)
  indexed_iff := sound.isSome_indexOn?_iff
  answers := by
    intro column index found
    obtain ⟨member, rfl⟩ := Sound.mem_of_indexOn? found
    have reflects := sound.reflects index member
    have statistics := reflects.statistics_eq sound.ascending
    refine ⟨index.position, sound.positions index member, reflects.lookup_eq sound.ascending, ?_, ?_⟩
    · rw [statistics]
      exact List.countP_congr fun entry _ => by rw [isSome_key?]
    · rw [statistics]

/-- An attempt keeps a table sound if its success does. -/
theorem Sound.attempted (sound : table.Sound) {result : Except Error Table}
    (kept : ∀ changed, result = .ok changed →
      changed.Sound ∧ table.schema.SameColumns changed.schema) :
    (table.attempted result).Sound ∧ table.schema.SameColumns (table.attempted result).schema := by
  cases result with
  | ok changed => exact kept changed rfl
  | error _ => exact ⟨sound, rfl, rfl⟩

/-- One operation keeps a table sound, and its columns. -/
theorem Sound.perform (sound : table.Sound) (operation : Operation)
    (wide : operation.Wide table.schema.columns.length) :
    (table.perform operation).Sound ∧
      table.schema.SameColumns (table.perform operation).schema := by
  cases operation with
  | insert row =>
      refine sound.attempted fun changed result => ?_
      obtain ⟨⟨_, id⟩, inserted, rfl⟩ := map_eq_ok.mp result
      refine ⟨sound.insert inserted, ?_⟩
      obtain ⟨-, -, -, rfl⟩ := insert_eq_ok inserted
      exact ⟨rfl, rfl⟩
  | update id row =>
      refine sound.attempted fun changed result => ?_
      obtain ⟨⟨_, before⟩, updated, rfl⟩ := map_eq_ok.mp result
      refine ⟨sound.update wide updated, ?_⟩
      rw [(sound.update_rewrites wide updated).schema]
      exact ⟨rfl, rfl⟩
  | delete id =>
      refine sound.attempted fun changed result => ?_
      obtain ⟨⟨_, row⟩, deleted, rfl⟩ := map_eq_ok.mp result
      refine ⟨sound.delete deleted, ?_⟩
      rw [(sound.delete_rewrites deleted).schema]
      exact ⟨rfl, rfl⟩
  | restore id row =>
      refine sound.attempted fun changed restored => ?_
      refine ⟨sound.restore wide restored, ?_⟩
      obtain ⟨-, -, rfl⟩ := restore_eq_ok_iff.mp restored
      exact ⟨rfl, rfl⟩
  | createIndex declared =>
      refine sound.attempted fun changed extended => ?_
      refine ⟨sound.createIndex extended, ?_⟩
      obtain ⟨-, -, schema, -, -⟩ := createIndex_eq_ok extended
      rw [schema]
      exact ⟨rfl, rfl⟩
  | rollback log =>
      obtain ⟨sound', schema⟩ := ChangeLog.rollback_sound log sound wide
      refine ⟨sound', ?_⟩
      change table.schema.SameColumns (ChangeLog.rollback table log).table.schema
      rw [schema]
      exact ⟨rfl, rfl⟩

/-- A series of operations keeps a table sound, and its columns. -/
theorem Sound.run (sound : table.Sound) (operations : List Operation)
    (wide : ∀ operation ∈ operations, operation.Wide table.schema.columns.length) :
    (table.run operations).Sound ∧ table.schema.SameColumns (table.run operations).schema := by
  induction operations generalizing table with
  | nil => exact ⟨sound, rfl, rfl⟩
  | cons operation rest ih =>
      obtain ⟨sound', same⟩ := sound.perform operation (wide _ List.mem_cons_self)
      obtain ⟨sound'', same'⟩ := ih sound' fun later member => by
        rw [same.columns]
        exact wide later (List.mem_cons_of_mem _ member)
      exact ⟨sound'', same'.name.trans same.name, same'.columns.trans same.columns⟩

/-! ### From the creation of a table on -/

/-- A table without rows that indexes its primary key only. -/
def bare (schema : Schema) : Table where
  schema := { schema with indexes := [] }
  rows := []
  nextId := 1
  indexes := [Index.empty schema.keyName schema.keyPosition]

/-- A table without rows is sound. -/
theorem bare_sound {schema : Schema} (valid : schema.Valid) : (bare schema).Sound := by
  constructor
  · exact ⟨valid.names_differ, valid.one_key⟩
  · exact ⟨List.nodup_nil, by simp [bare]⟩
  · exact List.Pairwise.nil
  · simp [bare]
  · simp [bare]
  · simp [bare]
  · simp [bare]
  · simp [bare]
  · simp [bare, Index.empty, Schema.keyName, Schema.keyPosition]
  · simp only [bare, List.mem_singleton, forall_eq]
    exact valid.position?_keyName
  · simp only [bare, List.mem_singleton, forall_eq]
    exact Index.empty_reflects _ _

/-- A new table is a bare one on which the declared indexes were created as far
as that is possible. -/
theorem create_eq_run (schema : Schema) :
    create schema = (bare schema).run (schema.indexes.map Operation.createIndex) := by
  rw [run, List.foldl_map]
  rfl

/-- The table of a valid schema is sound, whatever indexes the schema declares. -/
theorem create_sound {schema : Schema} (valid : schema.Valid) :
    (create schema).Sound ∧ schema.SameColumns (create schema).schema := by
  rw [create_eq_run]
  have narrow : ∀ operation ∈ schema.indexes.map Operation.createIndex,
      operation.Wide schema.columns.length := by
    intro operation member
    obtain ⟨declared, -, rfl⟩ := List.mem_map.mp member
    trivial
  obtain ⟨sound, same⟩ := (bare_sound valid).run _ narrow
  exact ⟨sound, same.name, same.columns⟩

/-- Every state that a table of a valid schema can get into is consistent. -/
theorem run_consistent {schema : Schema} (valid : schema.Valid) (operations : List Operation)
    (wide : ∀ operation ∈ operations, operation.Wide schema.columns.length) :
    ((create schema).run operations).Consistent ∧
      schema.SameColumns ((create schema).run operations).schema := by
  obtain ⟨sound, same⟩ := create_sound valid
  obtain ⟨sound', same'⟩ := sound.run operations fun operation member => by
    rw [same.columns]
    exact wide operation member
  exact ⟨sound'.consistent, same'.name.trans same.name, same'.columns.trans same.columns⟩

/-- Readings of a level, which is indexed. -/
def readings : Schema where
  name := "readings"
  columns := [⟨"id", .integer, true, none⟩, ⟨"level", .float, false, none⟩]
  indexes := [⟨"by_level", "level"⟩]

/-- Attempts on a table of readings, of which some fail: a key that is taken in
another form, a log that stops half way, an index whose name is taken. -/
def attempts : List Operation :=
  let undefined : Value := .float ⟨0x7ff8000000000000⟩
  let one : Value := .float ⟨0x3ff0000000000000⟩
  [.insert [.integer 1, undefined], .insert [one, .null], .insert [.integer 2, .integer 1],
    .update 1 [.integer 1, undefined], .update 2 [.integer 2, one], .delete 1,
    .createIndex ⟨"by_level", "id"⟩,
    .rollback [.deleted 1 [.integer 1, undefined], .updated 7 [.null, .null]],
    .restore 9 [.integer 3, .null]]

/-- The attempts leave three rows in a consistent table. -/
theorem run_consistent_attempts :
    readings.Valid ∧ (∀ operation ∈ attempts, operation.Wide readings.columns.length) ∧
      ((create readings).run attempts).rows.map Prod.fst = [1, 2, 9] ∧
      ((create readings).run attempts).Consistent ∧
      readings.SameColumns ((create readings).run attempts).schema := by
  have valid : readings.Valid := ⟨by decide, by decide⟩
  have wide : ∀ operation ∈ attempts, operation.Wide readings.columns.length := by
    simp [attempts, readings, Operation.Wide, Change.row]
  exact ⟨valid, wide, by decide, run_consistent valid attempts wide⟩

end Table

end Relational
