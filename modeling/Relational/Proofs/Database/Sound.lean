import Relational.Proofs.Grammar
import Relational.Proofs.Query.Plan
import Relational.Proofs.Snapshot

/-!
# Statements keep databases sound

A database is sound if its tables are well typed and filed under the names of
their schemas.  Every statement keeps it sound, whether it succeeds or fails, so
that every database that statements lead to from an empty one or from an
accepted snapshot is sound.
-/

namespace Relational

namespace Update

/-- The new rows that an update computes are typed. -/
theorem changes_typed {now : DateTime} {table : Table} {bound : BoundUpdate}
    {computed : List (RowId × Row)} (wellTyped : table.WellTyped)
    (computes : changes now table bound = .ok computed) :
    ∀ change ∈ computed, Row.Typed table.schema.columns change.2 := by
  obtain ⟨rows, finds, computes⟩ := bind_eq_ok.mp computes
  intro change member
  obtain ⟨entry, found, computed⟩ := exists_of_mem_mapM computes member
  obtain ⟨row, assigned, result⟩ := bind_eq_ok.mp computed
  cases result
  exact assign_typed (wellTyped.typed _ (Table.mem_of_matchingRows wellTyped.toSound finds found))
    assigned

end Update

namespace Database

/-- A database whose tables are well typed and filed under their names. -/
structure Sound (database : Database) : Prop where
  ordered : database.tables.Ordered
  wellTyped : ∀ name table, database.tables.get? name = some table → table.WellTyped
  named : ∀ name table, database.tables.get? name = some table → table.schema.name = name

variable {now : DateTime} {database changed : Database} {name : String} {table : Table}

theorem table_eq_ok_iff :
    database.table name = .ok table ↔ database.tables.get? name = some table := by
  unfold Database.table
  split <;> simp_all

theorem empty_sound (name : String) : (empty name).Sound :=
  ⟨NameMap.Ordered.empty, by simp [empty, NameMap.empty, NameMap.get?],
    by simp [empty, NameMap.empty, NameMap.get?]⟩

namespace Sound

/-- Filing a well-typed table under its name. -/
theorem withTable (sound : database.Sound) (wellTyped : table.WellTyped)
    (named : table.schema.name = name) : (database.withTable name table).Sound := by
  constructor
  · exact sound.ordered.insert name table
  · intro other found filed
    rw [Database.withTable, NameMap.get?_insert] at filed
    split at filed
    · cases filed
      exact wellTyped
    · exact sound.wellTyped other found filed
  · intro other found filed
    rw [Database.withTable, NameMap.get?_insert] at filed
    split at filed
    · rename_i same
      cases filed
      exact named.trans same.symm
    · exact sound.named other found filed

/-- Making a table keeps a database sound. -/
theorem createTable {schema : Schema} (sound : database.Sound) (valid : schema.Valid)
    (created : database.createTable schema = .ok changed) : changed.Sound := by
  unfold Database.createTable at created
  split at created
  · cases created
  · cases created
    exact sound.withTable (Table.create_wellTyped valid) (Table.create_sound valid).2.name

/-- Dropping a table keeps a database sound. -/
theorem dropTable (sound : database.Sound) (dropped : database.dropTable name = .ok changed) :
    changed.Sound := by
  unfold Database.dropTable at dropped
  split at dropped
  · cases dropped
    constructor
    · exact sound.ordered.erase name
    · intro other found filed
      rw [NameMap.get?_erase] at filed
      split at filed
      · cases filed
      · exact sound.wellTyped other found filed
    · intro other found filed
      rw [NameMap.get?_erase] at filed
      split at filed
      · cases filed
      · exact sound.named other found filed
  · cases dropped

/-- An insertion keeps a database sound. -/
theorem insertRow {insertion : Insert} (sound : database.Sound)
    (succeeded : database.insertRow now insertion = .ok changed) : changed.Sound := by
  obtain ⟨table, filed, succeeded⟩ := bind_eq_ok.mp succeeded
  obtain ⟨row, bound, succeeded⟩ := bind_eq_ok.mp succeeded
  obtain ⟨⟨extended, id⟩, inserted, result⟩ := bind_eq_ok.mp succeeded
  cases result
  have found := table_eq_ok_iff.mp filed
  refine sound.withTable ((sound.wellTyped _ _ found).insert (Insert.bind_typed bound) inserted) ?_
  obtain ⟨-, -, -, result⟩ := Table.insert_eq_ok inserted
  rw [result]
  exact sound.named _ table found

/-- Making an index keeps a database sound. -/
theorem createIndex {declaration : CreateIndex} (sound : database.Sound)
    (succeeded : database.createIndex declaration = .ok changed) : changed.Sound := by
  obtain ⟨table, filed, succeeded⟩ := bind_eq_ok.mp succeeded
  obtain ⟨extended, created, result⟩ := bind_eq_ok.mp succeeded
  cases result
  have found := table_eq_ok_iff.mp filed
  refine sound.withTable ((sound.wellTyped _ _ found).createIndex created) ?_
  obtain ⟨-, -, schema, -, -⟩ := Table.createIndex_eq_ok created
  rw [schema]
  exact sound.named _ _ found

/-- A settled series of changes is filed in place of the table of before. -/
theorem withChanges {applied : Table × Except Error Nat} (sound : database.Sound)
    (found : database.tables.get? name = some table) (settled : Table.Settled table applied) :
    (database.withChanges name applied).1.Sound := by
  refine sound.withTable (settled.wellTyped (sound.wellTyped _ _ found)) ?_
  rw [settled.schema]
  exact sound.named _ _ found

/-- A change of a whole database keeps it sound, whether it succeeds or fails. -/
theorem whole {outcome : Outcome} {result : Except Error Database} (sound : database.Sound)
    (kept : ∀ changed, result = .ok changed → changed.Sound) :
    (database.whole outcome result).1.Sound := by
  cases result with
  | ok changed => exact kept changed rfl
  | error _ => exact sound

/-- The changes that an update prepared either are all made or leave the table
as it is. -/
theorem update_settled {change : Update} {changes : List (RowId × Row)} (sound : database.Sound)
    (prepared : database.prepareUpdate now change = .ok (table, changes)) :
    database.tables.get? change.table = some table ∧
      Table.Settled table (table.applyUpdates [] changes) := by
  obtain ⟨found, filed, prepared⟩ := bind_eq_ok.mp prepared
  obtain ⟨bound, -, prepared⟩ := bind_eq_ok.mp prepared
  obtain ⟨computed, computes, result⟩ := bind_eq_ok.mp prepared
  cases result
  have filed := table_eq_ok_iff.mp filed
  have wellTyped := sound.wellTyped _ _ filed
  exact ⟨filed, Table.applyUpdates_settled wellTyped.toSound wellTyped .nothing
    (Update.changes_typed wellTyped computes)⟩

/-- A removal that was prepared settles the rows of its table. -/
theorem delete_settled {removal : Delete} {ids : List RowId} (sound : database.Sound)
    (prepared : database.prepareDelete now removal = .ok (table, ids)) :
    database.tables.get? removal.table = some table ∧
      Table.Settled table (table.applyDeletes [] ids) := by
  obtain ⟨found, filed, prepared⟩ := bind_eq_ok.mp prepared
  obtain ⟨condition, -, prepared⟩ := bind_eq_ok.mp prepared
  obtain ⟨rows, -, result⟩ := bind_eq_ok.mp prepared
  cases result
  have filed := table_eq_ok_iff.mp filed
  have wellTyped := sound.wellTyped _ _ filed
  exact ⟨filed, Table.applyDeletes_settled wellTyped.toSound wellTyped .nothing⟩

/-- A statement keeps a database sound, whether it succeeds or fails. -/
theorem execute {statement : Statement} (sound : database.Sound) (valid : statement.Valid) :
    (database.execute now statement).1.Sound := by
  cases statement with
  | select query => exact sound
  | insert insertion => exact sound.whole fun changed inserted => sound.insertRow inserted
  | update change =>
      rw [Database.execute]
      cases prepared : database.prepareUpdate now change with
      | error _ => exact sound
      | ok result =>
          obtain ⟨found, settled⟩ := sound.update_settled prepared
          exact sound.withChanges found settled
  | delete removal =>
      rw [Database.execute]
      cases prepared : database.prepareDelete now removal with
      | error _ => exact sound
      | ok result =>
          obtain ⟨found, settled⟩ := sound.delete_settled prepared
          exact sound.withChanges found settled
  | createTable schema => exact sound.whole fun changed created => sound.createTable valid created
  | createIndex declaration => exact sound.whole fun changed created => sound.createIndex created
  | dropTable name => exact sound.whole fun changed dropped => sound.dropTable dropped
  | showTables => exact sound

end Sound

/-! ### Reachable databases -/

/-- The databases that statements lead to, from an empty one or from a snapshot
that is accepted.  A statement may fail on the way. -/
inductive Reachable : Database → Prop
  | empty (name : String) : Reachable (empty name)
  | restored {path text : String} {tables : NameMap Table} (name : String)
      (accepted : Snapshot.read path text = .ok tables) : Reachable ⟨name, tables⟩
  | executed {database : Database} {statement : Statement} (now : DateTime)
      (reachable : Reachable database) (valid : statement.Valid) :
      Reachable (database.execute now statement).1

/-- Every database that statements lead to is sound. -/
theorem Reachable.sound (reachable : database.Reachable) : database.Sound := by
  induction reachable with
  | empty name => exact empty_sound name
  | restored name accepted =>
      obtain ⟨ordered, each⟩ := Snapshot.read_wellTyped accepted
      refine ⟨ordered, fun name table filed => ?_, fun name table filed => ?_⟩
      · exact (each _ (ordered.get?_eq_some_iff.mp filed)).1
      · exact (each _ (ordered.get?_eq_some_iff.mp filed)).2
  | executed now _ valid ih => exact ih.execute valid

/-- The database after some statements were run at a moment. -/
def executeAll (now : DateTime) (database : Database) (statements : List Statement) : Database :=
  statements.foldl (fun database statement => (database.execute now statement).1) database

/-- Statements lead from a reachable database to a reachable one. -/
theorem Reachable.executeAll (reachable : database.Reachable) (now : DateTime)
    {statements : List Statement} (valid : ∀ statement ∈ statements, statement.Valid) :
    (database.executeAll now statements).Reachable := by
  induction statements generalizing database with
  | nil => exact reachable
  | cons statement rest ih =>
      apply ih
      · exact reachable.executed now (valid statement List.mem_cons_self)
      · intro other member
        exact valid other (List.mem_cons_of_mem _ member)

/-! ### A reachable database -/

/-- A table of rows that is indexed by its primary key alone. -/
def keyedTable (schema : Schema) (nextId : RowId) (rows : List (RowId × Row)) : Table where
  schema := schema
  rows := rows
  nextId := nextId
  indexes := [Index.build schema.keyName schema.keyPosition rows]

/-- A table of tanks with their levels, which are its primary keys, and notes. -/
def tankTable (indexed : List IndexDeclaration) (rows : List (RowId × Row)) : Table where
  schema :=
    ⟨"tank", [⟨"level", .float, true, none⟩, ⟨"note", .text, false, none⟩], indexed⟩
  rows := rows
  nextId := rows.length + 1
  indexes := [Index.build "level" 0 rows, Index.build "note" 1 rows]

/-- A snapshot of tanks.  The levels are not floats, and a note is missing. -/
def tankDocument : String :=
  "[\x7b\"tank\":[[[\"level\",\"FLOAT\",true],[\"note\",\"STRING\"]],[[\"by_note\",\"note\"]],[" ++
    "\x7b\"level\":\"2.5\"\x7d,\x7b\"note\":\"low\",\"level\":1\x7d]]\x7d]"

/-- The tanks of the snapshot, with levels of 2.5 and 1. -/
def tanks : NameMap Table :=
  let level : Binary64 := ⟨0x4004000000000000⟩
  let one : Binary64 := ⟨0x3ff0000000000000⟩
  ⟨[("tank", tankTable [⟨"by_note", "note"⟩]
    [(1, [.float level, .null]), (2, [.float one, .text "low"])])]⟩

/-- The snapshot of tanks is read, with its levels coerced and the missing note unknown. -/
theorem read_tankDocument : Snapshot.read "tank.json" tankDocument = .ok tanks := by
  have characters : tankDocument = String.ofList (_ ++ _) := String.ofList_append.symm
  rw [characters]
  unfold Snapshot.read Snapshot.ofText? Json.ofText?
  rw [String.toList_ofList]
  decide +kernel

/-- The insertion of a tank. -/
def tankRow (level note : Expr) : Statement :=
  .insert ⟨"tank", ["level", "note"], [level, note]⟩

/-- Statements about tanks: one that fails for a key that is taken in another
form, one that makes a key undefined, and an index. -/
def adjustments : List Statement :=
  let large : Expr := .binary .multiply (.literal (.float ⟨0x7fe1ccf385ebc8a0⟩))
    (.literal (.integer 10))
  [tankRow (.literal (.text "1.0")) (.literal (.text "again")),
    tankRow (.binary .subtract large large) (.literal .null),
    .createIndex ⟨"by_level", "tank", "level"⟩]

/-- The moment at which the adjustments are made. -/
def leapDay : DateTime :=
  DateTime.startOfDay ⟨2024, 2, 29⟩

/-- The tanks after the adjustments. -/
def adjustedTanks : Table :=
  let level : Binary64 := ⟨0x4004000000000000⟩
  let one : Binary64 := ⟨0x3ff0000000000000⟩
  let undefined : Binary64 := ⟨0xfff8000000000000⟩
  tankTable [⟨"by_note", "note"⟩, ⟨"by_level", "level"⟩]
    [(1, [.float level, .null]), (2, [.float one, .text "low"]), (3, [.float undefined, .null])]

/-- A database of the tanks after the adjustments. -/
def plant : Database :=
  ⟨"plant", ⟨[("tank", adjustedTanks)]⟩⟩

/-- The plant is made from a snapshot by statements, one of which fails. -/
theorem plant_reachable : plant.Reachable := by
  have adjusted : executeAll leapDay ⟨"plant", tanks⟩ adjustments = plant := by decide +kernel
  have valid : ∀ statement ∈ adjustments, statement.Valid := by
    simp [adjustments, tankRow, Statement.Valid]
  rw [← adjusted]
  exact (Reachable.restored "plant" read_tankDocument).executeAll leapDay valid

end Database

end Relational
