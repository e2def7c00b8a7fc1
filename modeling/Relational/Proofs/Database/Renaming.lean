import Relational.Proofs.Database.Atomicity
import Relational.Proofs.Database.Partition
import Relational.Proofs.Database.Reload
import Relational.Proofs.Query.Renaming

/-!
# Statements do not show identities

Databases are equivalent if they have equivalent tables under the same names.
Every statement has the same outcome on equivalent databases and leaves equivalent
ones behind, so that no sequence of statements tells them apart.  A database that
comes back from a snapshot is equivalent to the one that was written, unless a
float was lost.
-/

namespace Relational

namespace NameMap

variable {α β : Type}

/-- The names after filing a value depend on the names of before only. -/
theorem insertEntry_names_congr {name : String} {value : α} {value' : β}
    {entries : List (String × α)} {others : List (String × β)}
    (same : others.map Prod.fst = entries.map Prod.fst) :
    (insertEntry name value' others).map Prod.fst =
      (insertEntry name value entries).map Prod.fst := by
  induction entries generalizing others with
  | nil =>
      rw [List.map_eq_nil_iff.mp same]
      rfl
  | cons entry rest ih =>
      obtain ⟨⟨_, kept⟩, following, rfl, rfl, later⟩ := List.map_eq_cons_iff.mp same
      rw [insertEntry, insertEntry]
      split
      · exact congrArg (name :: ·) later
      · split
        · exact congrArg (name :: entry.1 :: ·) later
        · exact congrArg (entry.1 :: ·) (ih later)

theorem names_erase (map : NameMap α) (name : String) :
    (map.erase name).names = map.names.filter fun other => other ≠ name := by
  rw [names, names, List.filter_map]
  rfl

/-- A map contains a name exactly if it lists it. -/
theorem contains_iff (map : NameMap α) (name : String) :
    map.contains name = true ↔ name ∈ map.names := by
  unfold contains get? names
  rw [List.lookup_isSome_iff, List.mem_map]
  exact exists_congr fun entry => and_congr_right fun _ => beq_iff_eq.trans eq_comm

end NameMap

namespace Database

/-- Databases with equivalent tables under the same names. -/
structure Equivalent (first second : Database) : Prop where
  names : second.tables.names = first.tables.names
  tables : ∀ name table table', first.tables.get? name = some table →
    second.tables.get? name = some table' → table.Equivalent table'

/-- The outcomes of the same statement, and equivalent databases that it left. -/
structure RanAlike (ran ran' : Database × Except Error Outcome) : Prop where
  outcome : ran'.2 = ran.2
  equivalent : ran.1.Equivalent ran'.1

variable {now : DateTime} {first second : Database} {name : String} {table table' : Table}

namespace Equivalent

theorem contains_eq (equivalent : first.Equivalent second) (name : String) :
    second.tables.contains name = first.tables.contains name := by
  rw [Bool.eq_iff_iff, NameMap.contains_iff, NameMap.contains_iff, equivalent.names]

/-- Equivalent databases give equivalent tables under a name. -/
theorem table_alike (equivalent : first.Equivalent second) (name : String) :
    Alike Table.Equivalent (first.table name) (second.table name) := by
  have both : (second.tables.get? name).isSome = (first.tables.get? name).isSome :=
    equivalent.contains_eq name
  unfold Database.table
  cases filed : first.tables.get? name with
  | none =>
      cases filed' : second.tables.get? name with
      | none => exact .error _
      | some table' => rw [filed, filed'] at both; cases both
  | some table =>
      cases filed' : second.tables.get? name with
      | none => rw [filed, filed'] at both; cases both
      | some table' => exact .ok (equivalent.tables name table table' filed filed')

theorem trans {third : Database} (same : first.Equivalent second)
    (same' : second.Equivalent third) : first.Equivalent third := by
  refine ⟨same'.names.trans same.names, fun name table table'' found found'' => ?_⟩
  have both := same.contains_eq name
  rw [NameMap.contains, NameMap.contains, found] at both
  obtain ⟨table', found'⟩ := Option.isSome_iff_exists.mp both
  exact (same.tables name table table' found found').trans
    (same'.tables name table' table'' found' found'')

/-- Filing equivalent tables keeps two databases equivalent. -/
theorem withTable (equivalent : first.Equivalent second) (name : String)
    (same : table.Equivalent table') :
    (first.withTable name table).Equivalent (second.withTable name table') := by
  refine ⟨NameMap.insertEntry_names_congr equivalent.names, ?_⟩
  intro other found found' filed filed'
  rw [Database.withTable, NameMap.get?_insert] at filed filed'
  split at filed
  · rename_i here
    rw [if_pos here] at filed'
    cases filed
    cases filed'
    exact same
  · rename_i elsewhere
    rw [if_neg elsewhere] at filed'
    exact equivalent.tables other found found' filed filed'

/-! ### Single statements -/

/-- Changes of equivalent databases that end alike are reported alike. -/
theorem whole (equivalent : first.Equivalent second) (outcome : Outcome)
    {result result' : Except Error Database} (alike : Alike Equivalent result result') :
    RanAlike (first.whole outcome result) (second.whole outcome result') := by
  cases alike with
  | ok equivalent' => exact ⟨rfl, equivalent'⟩
  | error error => exact ⟨rfl, equivalent⟩

/-- Changes of equivalent tables that end alike are filed and reported alike. -/
theorem withChanges (equivalent : first.Equivalent second) (name : String)
    {applied applied' : Table × Except Error Nat} (ended : Table.EndAlike applied applied') :
    RanAlike (first.withChanges name applied) (second.withChanges name applied') := by
  obtain ⟨outcome, same⟩ := ended
  refine ⟨?_, equivalent.withTable name same⟩
  unfold Database.withChanges
  rw [outcome]

/-- A query has the same answer. -/
theorem select (equivalent : first.Equivalent second) (now : DateTime) (query : Select) :
    second.select now query = first.select now query := by
  refine ((equivalent.table_alike query.table).bind fun table table' same => ?_).eq.symm
  rw [same.schema]
  refine (Alike.refl _).bind fun bound bound' same' => ?_
  subst same'
  rw [Select.answer_eq same]
  exact Alike.refl _

/-- Insertions into equivalent databases end alike. -/
theorem insertRow (equivalent : first.Equivalent second) (now : DateTime) (insertion : Insert) :
    Alike Equivalent (first.insertRow now insertion) (second.insertRow now insertion) := by
  refine (equivalent.table_alike insertion.table).bind fun table table' same => ?_
  rw [same.schema]
  refine (Alike.refl _).bind fun row row' same' => ?_
  subst same'
  refine (same.insert row).bind fun ⟨extended, _⟩ ⟨extended', _⟩ same' => ?_
  exact .ok (equivalent.withTable insertion.table same')

/-- Making an index in equivalent databases ends alike. -/
theorem createIndex (equivalent : first.Equivalent second) (declaration : CreateIndex) :
    Alike Equivalent (first.createIndex declaration) (second.createIndex declaration) :=
  (equivalent.table_alike declaration.table).bind fun _ _ same =>
    (same.createIndex _).bind fun _ _ same' =>
      .ok (equivalent.withTable declaration.table same')

/-- Making a table in equivalent databases ends alike. -/
theorem createTable (equivalent : first.Equivalent second) {schema : Schema}
    (valid : schema.Valid) :
    Alike Equivalent (first.createTable schema) (second.createTable schema) := by
  unfold Database.createTable
  rw [equivalent.contains_eq]
  split
  · exact .error _
  · exact .ok (equivalent.withTable schema.name (.refl (Table.create_sound valid).1))

/-- Dropping a table of equivalent databases ends alike. -/
theorem dropTable (equivalent : first.Equivalent second) (name : String) :
    Alike Equivalent (first.dropTable name) (second.dropTable name) := by
  unfold Database.dropTable
  rw [equivalent.contains_eq]
  split
  · refine .ok ⟨?_, fun other table table' filed filed' => ?_⟩
    · dsimp only
      rw [NameMap.names_erase, NameMap.names_erase, equivalent.names]
    · rw [NameMap.get?_erase] at filed filed'
      split at filed
      · cases filed
      · rename_i elsewhere
        rw [if_neg elsewhere] at filed'
        exact equivalent.tables other table table' filed filed'
  · exact .error _

/-- An update prepares the same new rows, for rows that correspond. -/
theorem update (equivalent : first.Equivalent second) (now : DateTime) (change : Update) :
    RanAlike (first.execute now (.update change)) (second.execute now (.update change)) := by
  have alike : Alike (fun prepared prepared' => Table.EndAlike
      (prepared.1.applyUpdates [] prepared.2) (prepared'.1.applyUpdates [] prepared'.2))
      (first.prepareUpdate now change) (second.prepareUpdate now change) := by
    refine (equivalent.table_alike change.table).bind fun table table' same => ?_
    obtain ⟨rename, renamed⟩ := same.exists_renamed
    rw [same.schema]
    refine (Alike.refl _).bind fun bound bound' same' => ?_
    subst same'
    refine (Update.changes_alike renamed now bound).bind fun computed computed' related => ?_
    obtain ⟨rfl, fit⟩ := related
    exact .ok (renamed.applyUpdates same .nothing .nothing rfl
      (fun change member => (fit change member).1) fun change member => (fit change member).2)
  rw [execute, execute]
  rcases alike.ok_or_error with
    ⟨prepared, prepared', prepares, prepares', ended⟩ | ⟨error, failed, failed'⟩
  · rw [prepares, prepares']
    exact equivalent.withChanges change.table ended
  · rw [failed, failed']
    exact ⟨rfl, equivalent⟩

/-- A removal is of rows that correspond. -/
theorem delete (equivalent : first.Equivalent second) (now : DateTime) (removal : Delete) :
    RanAlike (first.execute now (.delete removal)) (second.execute now (.delete removal)) := by
  have alike : Alike (fun prepared prepared' => Table.EndAlike
      (prepared.1.applyDeletes [] prepared.2) (prepared'.1.applyDeletes [] prepared'.2))
      (first.prepareDelete now removal) (second.prepareDelete now removal) := by
    refine (equivalent.table_alike removal.table).bind fun table table' same => ?_
    obtain ⟨rename, renamed⟩ := same.exists_renamed
    rw [same.schema]
    refine (Alike.refl _).bind fun condition condition' same' => ?_
    subst same'
    refine (renamed.found_alike now condition).bind fun found found' related => ?_
    obtain ⟨ids, known, nodup⟩ := related
    refine .ok ?_
    rw [ids]
    exact renamed.applyDeletes rfl known nodup
  rw [execute, execute]
  rcases alike.ok_or_error with
    ⟨prepared, prepared', prepares, prepares', ended⟩ | ⟨error, failed, failed'⟩
  · rw [prepares, prepares']
    exact equivalent.withChanges removal.table ended
  · rw [failed, failed']
    exact ⟨rfl, equivalent⟩

/-- Every statement runs alike on equivalent databases, and leaves them equivalent. -/
theorem execute {statement : Statement} (equivalent : first.Equivalent second) (now : DateTime)
    (valid : statement.Valid) :
    RanAlike (first.execute now statement) (second.execute now statement) := by
  cases statement with
  | select query => exact ⟨equivalent.select now query, equivalent⟩
  | insert insertion => exact equivalent.whole _ (equivalent.insertRow now insertion)
  | update change => exact equivalent.update now change
  | delete removal => exact equivalent.delete now removal
  | createTable schema => exact equivalent.whole _ (equivalent.createTable valid)
  | createIndex declaration => exact equivalent.whole _ (equivalent.createIndex declaration)
  | dropTable name => exact equivalent.whole _ (equivalent.dropTable name)
  | showTables =>
      refine ⟨?_, equivalent⟩
      simp only [Database.execute, query, showTables, equivalent.names]

end Equivalent

/-- What nothing tells from a sound database is equivalent to it. -/
theorem Indistinguishable.equivalent (same : Indistinguishable first second)
    (sound : first.Sound) (sound' : second.Sound) : first.Equivalent second := by
  refine ⟨same.names.symm, fun name table table' found found' => ?_⟩
  have alike := same.tables name table table' found found'
  exact ⟨(sound.wellTyped name table found).toSound, (sound'.wellTyped name table' found').toSound,
    alike.schema.symm, congrArg (List.map Prod.snd) alike.rows.symm⟩

theorem Sound.equivalent_refl (sound : first.Sound) : first.Equivalent first :=
  (Indistinguishable.of_eq rfl).equivalent sound sound

/-! ### Sequences of statements -/

/-- The outcomes of statements that are run one after another, each at its
moment. -/
def outcomes (database : Database) : List (DateTime × Statement) → List (Except Error Outcome)
  | [] => []
  | (now, statement) :: rest =>
    let ran := database.execute now statement
    ran.2 :: outcomes ran.1 rest

/-- No sequence of statements tells equivalent databases apart. -/
theorem Equivalent.outcomes_eq (equivalent : first.Equivalent second)
    {script : List (DateTime × Statement)} (valid : ∀ step ∈ script, step.2.Valid) :
    second.outcomes script = first.outcomes script := by
  induction script generalizing first second with
  | nil => rfl
  | cons step rest ih =>
      obtain ⟨now, statement⟩ := step
      obtain ⟨head, tail⟩ := List.forall_mem_cons.mp valid
      have ran := equivalent.execute now head
      rw [outcomes, outcomes]
      exact congrArg₂ List.cons ran.outcome (ih ran.equivalent tail)

/-! ### Databases that come back from a snapshot -/

/-- All floats of a database are finite and read back from their numerals, so
that its snapshot is exact. -/
def Exact (database : Database) : Prop :=
  ∀ entry ∈ database.tables.entries, ∀ row ∈ entry.2.rows, ∀ cell ∈ row.2,
    cell.Finite ∧ cell.Readable

/-- A database comes back from its exact snapshot with its rows numbered anew,
and is equivalent to the one that was written. -/
theorem Sound.read_equivalent {database : Database} (sound : database.Sound)
    (exact : database.Exact) (path name : String) :
    ∃ tables, Snapshot.read path (Snapshot.ofTables database.tables).text = .ok tables ∧
      database.Equivalent ⟨name, tables⟩ := by
  obtain ⟨tables, read, rebuilt⟩ := sound.exists_read path
    (fun entry member row among key cell =>
      (exact entry member row among key (List.mem_of_getElem? cell)).1)
    fun entry member row among cell listed => (exact entry member row among cell listed).2
  refine ⟨tables, read, names_eq_of_forall₂ rebuilt, fun name table built filed filed' => ?_⟩
  have listed := sound.ordered.get?_eq_some_iff.mp filed
  obtain ⟨⟨_, built'⟩, member, rfl, rebuilt⟩ := exists_of_forall₂ rebuilt listed
  have found := (Snapshot.read_wellTyped read).1.get?_eq_some_iff.mpr member
  cases found.symm.trans filed'
  have wellTyped := sound.wellTyped _ _ filed
  have renumbered := rebuilt.renumbered wellTyped.toSound
    fun row among cell kept => (exact _ listed row among cell kept).1
  have renamed : Table.Renamed table.renumber table built :=
    ⟨wellTyped.toSound, rebuilt.sound, rebuilt.schema, renumbered.rows⟩
  exact renamed.equivalent

/-- Identities are invisible: a statement has the same outcome on equivalent
databases and leaves equivalent ones behind, and so no sequence of statements
tells a database that came back from an exact snapshot from the one that was
written. -/
theorem identities_invisible :
    (∀ first second : Database, first.Equivalent second →
      ∀ (now : DateTime) (statement : Statement), statement.Valid →
        (second.execute now statement).2 = (first.execute now statement).2 ∧
          (first.execute now statement).1.Equivalent (second.execute now statement).1) ∧
      ∀ database : Database, database.Reachable → database.Exact → ∀ path name : String,
        ∃ tables, Snapshot.read path (Snapshot.ofTables database.tables).text = .ok tables ∧
          ∀ script : List (DateTime × Statement), (∀ step ∈ script, step.2.Valid) →
            outcomes ⟨name, tables⟩ script = database.outcomes script := by
  constructor
  · intro first second equivalent now statement valid
    have ran := equivalent.execute now valid
    exact ⟨ran.outcome, ran.equivalent⟩
  · intro database reachable exact path name
    obtain ⟨tables, read, equivalent⟩ := reachable.sound.read_equivalent exact path name
    exact ⟨tables, read, fun script valid => equivalent.outcomes_eq valid⟩

/-! ### The tally, resumed -/

/-- The rows of the tally under the identities that follow a removed row. -/
def resumedTable : Table :=
  keyedTable tallied.schema 5
    [(2, [.integer 1, .integer 9007199254740992, .null]),
      (3, [.integer 2, .integer 9007199254740992, .integer 1]),
      (4, [.integer 3, .integer 5, .integer 1])]

/-- A database of that table. -/
def resumedTally : Database :=
  ⟨"resumed", ⟨[("t", resumedTable)]⟩⟩

/-- Statements that remove a row before they fill the table. -/
def resuming : List Statement :=
  let row (id n : Int64) (m : Value) : Statement :=
    .insert ⟨"t", ["id", "n", "m"],
      [.literal (.integer id), .literal (.integer n), .literal m]⟩
  [.createTable tallied.schema, row 7 7 .null,
    .delete ⟨"t", some (.binary .equal (.column "id") (.literal (.integer 7)))⟩,
    row 1 9007199254740992 .null, row 2 9007199254740992 (.integer 1), row 3 5 (.integer 1)]

/-- The resumed tally is made by its statements. -/
theorem resumedTally_reachable : resumedTally.Reachable := by
  have made : executeAll leapDay (empty "resumed") resuming = resumedTally := by decide +kernel
  have valid : ∀ statement ∈ resuming, statement.Valid := by
    have schema : tallied.schema.Valid := ⟨by decide, by decide⟩
    simp [resuming, Statement.Valid, schema]
  rw [← made]
  exact (Reachable.empty "resumed").executeAll leapDay valid

/-- The tally and the resumed tally differ by their identities only. -/
theorem tally_equivalent : tally.Equivalent resumedTally := by
  refine ⟨rfl, fun name table table' filed filed' => ?_⟩
  have sound := (tally_reachable.sound.wellTyped name table filed).toSound
  have sound' := (resumedTally_reachable.sound.wellTyped name table' filed').toSound
  rw [tally, NameMap.get?, lookup_cons_eq_ite] at filed
  rw [resumedTally, NameMap.get?, lookup_cons_eq_ite] at filed'
  split at filed
  · rename_i here
    rw [if_pos here] at filed'
    cases filed
    cases filed'
    exact ⟨sound, sound', rfl, rfl⟩
  · cases filed

/-- The levels of the depot are finite and are read back, so that its snapshot is exact. -/
theorem depot_exact : depot.Exact := by
  unfold Exact
  decide +kernel

/-- The ones get the number of their row. -/
def numbering : Statement :=
  .update ⟨"t", [("n", .column "id")], some (.binary .equal (.column "m") (.literal (.integer 1)))⟩

/-- Statements run alike on the tally and the resumed tally, and on the depot and its
reloaded form. -/
theorem identities_invisible_resumed :
    tally.Equivalent resumedTally ∧ tallied.ids ≠ resumedTable.ids ∧ numbering.Valid ∧
      ((resumedTally.execute leapDay numbering).2 = (tally.execute leapDay numbering).2 ∧
        (tally.execute leapDay numbering).1.Equivalent
          (resumedTally.execute leapDay numbering).1) ∧
      depot.Reachable ∧ depot.Exact ∧
      ∃ tables, Snapshot.read "data/depot.json" (Snapshot.ofTables depot.tables).text =
          .ok tables ∧
        ∀ script : List (DateTime × Statement), (∀ step ∈ script, step.2.Valid) →
          outcomes ⟨"depot", tables⟩ script = depot.outcomes script := by
  have valid : ∀ statement ∈ replacement, statement.Valid := by
    simp [replacement, tankRow, Statement.Valid]
  have reachable : depot.Reachable :=
    (Reachable.restored "depot" read_tankDocument).executeAll leapDay valid
  exact ⟨tally_equivalent, by decide +kernel, trivial,
    identities_invisible.1 tally resumedTally tally_equivalent leapDay numbering trivial,
    reachable, depot_exact,
    identities_invisible.2 depot reachable depot_exact "data/depot.json" "depot"⟩

end Database

end Relational
