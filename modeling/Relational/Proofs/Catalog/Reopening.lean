import Relational.Proofs.Catalog.Durability
import Relational.Proofs.Database.Reload

/-!
# Databases are opened again

A catalog over files that another one has written opens every database, with the
tables that it had in memory, provided that every float is read back as it was printed
and that no primary key is a float that is not finite: such a key is accepted by a
table and lost in its snapshot, and then no table of the database can be opened.
-/

namespace Relational

namespace Catalog

/-- The catalog after a series of texts was run. -/
def obeyAll (catalog : Catalog) (commands : List Command) : Catalog :=
  commands.foldl obey catalog

variable {catalog : Catalog} {name : String}

/-- A new catalog shows the tables of a database as far as it can be loaded. -/
theorem execute_showTables (configuration : Configuration) (directory : Directory) (now : DateTime)
    {sql : String} (valid : isDatabaseName name = true)
    (parsed : Statement.parse sql = .ok .showTables) :
    ((start configuration directory).execute now name sql).2 =
      ((start configuration directory).stored name).map Database.showTables := by
  have checked : checkName name = .ok () := if_pos valid
  simp only [execute, checked, parsed, run]
  have loads := load_loads (start configuration directory) name
  revert loads
  generalize (start configuration directory).load name = result
  intro loads
  cases loads with
  | present content => cases content
  | read _ stored =>
      rw [stored]
      rfl
  | refused _ stored =>
      rw [stored]
      rfl

/-! ### Runs in which every snapshot is written -/

/-- A catalog in order that has saved all its databases.  It is configured as it
was first, its directory takes the files that it took first, and there is no file
of a database that is not in memory. -/
structure Saved (first catalog : Catalog) : Prop extends catalog.Orderly where
  configuration : catalog.configuration = first.configuration
  accepts : ∀ file, catalog.directory.accepts file = first.directory.accepts file
  saved : ∀ name, (catalog.known name).unsaved = false
  accounted : ∀ name, (catalog.known name).content = none →
    catalog.directory.read? (Configuration.snapshotFile name) = none

/-- Saving a database does not change which files the directory takes. -/
theorem Saves.accepts {known : KnownDatabase} {database : Database}
    {result : Catalog × Except Error Unit} (saves : Saves catalog name known database result)
    (file : String) : result.1.directory.accepts file = catalog.directory.accepts file := by
  cases saves with
  | written replaced => exact Directory.accepts_of_replace? replaced file
  | refused _ => rfl

/-- A database that is not in memory after a step was not before. -/
theorem Loads.absent {result : Catalog × Except Error Database} (loads : Loads catalog name result)
    {other : String} (absent : (result.1.known other).content = none) :
    (catalog.known other).content = none := by
  by_cases here : other = name
  · subst here
    cases loads with
    | present content =>
        rw [known_withKnown, if_pos rfl] at absent
        exact absent
    | read content _ => exact content
    | refused content _ => exact content
  · rwa [loads.concerns.known_of_ne here] at absent

/-- The files of databases that are not in memory stay as they are. -/
theorem Runs.absent {now : DateTime} {statement : Statement}
    {result : Catalog × Except Error Outcome} (runs : Runs now catalog name statement result)
    {other : String} (absent : (result.1.known other).content = none) :
    (catalog.known other).content = none ∧
      result.1.directory.read? (Configuration.snapshotFile other) =
        catalog.directory.read? (Configuration.snapshotFile other) := by
  cases runs with
  | unloaded loads => exact ⟨loads.absent absent, by rw [loads.quiet.directory]⟩
  | read loads _ => exact ⟨loads.absent absent, by rw [loads.quiet.directory]⟩
  | @failed loaded database error loads _ _ =>
      have elsewhere : other ≠ name := by
        rintro rfl
        rw [known_withKnown, if_pos rfl] at absent
        cases absent
      have directory : loaded.directory = catalog.directory := loads.quiet.directory
      rw [known_withKnown, if_neg elsewhere] at absent
      refine ⟨loads.absent absent, ?_⟩
      rw [← directory]
      rfl
  | @changed loaded database outcome known result loads _ _ content saves =>
      have elsewhere : other ≠ name := by
        rintro rfl
        rw [saves.content, content] at absent
        cases absent
      have concerns := saves.concerns
      have directory : loaded.directory = catalog.directory := loads.quiet.directory
      rw [concerns.known_of_ne elsewhere] at absent
      refine ⟨loads.absent absent, (concerns.files other elsewhere).trans ?_⟩
      rw [← directory]

/-- Running a statement does not change which files the directory takes. -/
theorem Runs.accepts {now : DateTime} {statement : Statement}
    {result : Catalog × Except Error Outcome} (runs : Runs now catalog name statement result)
    (file : String) : result.1.directory.accepts file = catalog.directory.accepts file := by
  cases runs with
  | unloaded loads => rw [loads.quiet.directory]
  | read loads _ => rw [loads.quiet.directory]
  | @failed loaded _ _ loads _ _ =>
      have directory : loaded.directory = catalog.directory := loads.quiet.directory
      rw [← directory]
      rfl
  | @changed loaded _ _ _ _ loads _ _ _ saves =>
      have directory : loaded.directory = catalog.directory := loads.quiet.directory
      rw [← directory]
      exact saves.accepts file

/-- Running a statement keeps the configuration. -/
theorem Runs.configuration {now : DateTime} {statement : Statement}
    {result : Catalog × Except Error Outcome} (runs : Runs now catalog name statement result) :
    result.1.configuration = catalog.configuration := by
  cases runs with
  | unloaded loads => exact loads.configuration
  | read loads _ => exact loads.configuration
  | failed loads _ _ => exact loads.configuration
  | changed loads _ _ _ saves => exact saves.concerns.configuration.trans loads.configuration

namespace Saved

variable {first : Catalog}

/-- A new catalog over a directory without snapshots has saved all its databases. -/
theorem start {configuration : Configuration} {directory : Directory}
    (persistent : configuration.persistent = true)
    (fresh : ∀ name, directory.read? (Configuration.snapshotFile name) = none) :
    Saved (Catalog.start configuration directory) (Catalog.start configuration directory) where
  toOrderly := start_orderly persistent directory
  configuration := rfl
  accepts := fun _ => rfl
  saved := fun _ => rfl
  accounted := fun name _ => fresh name

/-- A statement on a database whose file can be replaced leaves nothing
unsaved. -/
theorem obey (saved : Saved first catalog) (command : Command)
    (accepts : isDatabaseName command.name = true →
      first.directory.accepts (Configuration.snapshotFile command.name) = true) :
    Saved first (catalog.obey command) := by
  have orderly := saved.toOrderly.execute command.now command.name command.sql
  unfold Catalog.obey
  by_cases valid : isDatabaseName command.name = true
  case neg =>
    rw [execute_of_not_isDatabaseName catalog _ _ (Bool.not_eq_true _ ▸ valid)]
    exact saved
  rcases execute_cases command.now catalog command.name command.sql with
    ⟨error, refused⟩ | ⟨statement, parsed, ran⟩
  · rw [refused]
    exact saved
  · rw [ran] at orderly ⊢
    have runs := run_runs saved.persistent command.now command.name statement
    generalize catalog.run command.now command.name statement = result at orderly runs
    refine ⟨orderly, runs.configuration.trans saved.configuration,
      fun file => (runs.accepts file).trans (saved.accepts file), fun other => ?_,
      fun other absent => ?_⟩
    · by_cases harmless : (∃ error, result.2 = .error error) ∨ statement.isMutation = false
      · rw [(runs.quiet harmless).unsaved, saved.saved]
      · rw [not_or, Bool.not_eq_false] at harmless
        obtain ⟨outcome, succeeds⟩ : ∃ outcome, result.2 = .ok outcome := by
          cases reported : result.2 with
          | ok outcome => exact ⟨outcome, rfl⟩
          | error error => exact absurd ⟨error, reported⟩ harmless.1
        have change := runs.change harmless.2 succeeds
        by_cases here : other = command.name
        · rw [here, ← Bool.not_eq_true, change.unsaved_iff, saved.accepts, accepts valid]
          decide
        · rw [(change.others other here).1, saved.saved]
    · obtain ⟨absent', unchanged⟩ := runs.absent absent
      rw [unchanged, saved.accounted other absent']

/-- A series of texts for databases whose files can be replaced leaves nothing unsaved. -/
theorem obeyAll (saved : Saved first catalog) {commands : List Command}
    (accepts : ∀ command ∈ commands, isDatabaseName command.name = true →
      first.directory.accepts (Configuration.snapshotFile command.name) = true) :
    Saved first (catalog.obeyAll commands) := by
  induction commands generalizing catalog with
  | nil => exact saved
  | cons command rest ih =>
      exact ih (saved.obey command (accepts command List.mem_cons_self))
        fun later member => accepts later (List.mem_cons_of_mem _ member)

/-- A new catalog over the same files loads the tables that were in memory. -/
theorem stored_restart (saved : Saved first catalog) (name : String)
    (recoverable : ∀ database, (catalog.known name).content = some database →
      ∀ filed ∈ database.tables.entries, filed.2.KeysFinite ∧
        ∀ row ∈ filed.2.rows, ∀ cell ∈ row.2, cell.Readable) :
    (catalog.restart.stored name).map Database.showTables =
      .ok ((catalog.known name).content.getD (Database.empty name)).showTables := by
  have same : catalog.restart.stored name = catalog.stored name := stored_congr rfl rfl
  rw [same]
  cases content : (catalog.known name).content with
  | none =>
      have unwritten := saved.accounted name content
      rw [stored, if_pos saved.persistent, unwritten]
      rfl
  | some database =>
      rcases saved.level name database content (saved.saved name) with
        written | ⟨loaded, stored, unchanged⟩
      · have sound := (saved.reachable name database content).sound
        obtain ⟨tables, read, rebuilt⟩ := sound.exists_read
          (catalog.configuration.snapshotPath name)
          (fun entry member => (recoverable database content entry member).1)
          (fun entry member => (recoverable database content entry member).2)
        have names := Database.names_eq_of_forall₂ rebuilt
        rw [Catalog.stored, if_pos saved.persistent, written]
        dsimp only
        rw [read]
        change Except.ok (Outcome.rows _ ((tables.entries.map Prod.fst).map _)) = _
        rw [names]
        rfl
      · rw [stored]
        change Except.ok (Outcome.rows _ (loaded.tables.names.map _)) = _
        rw [← unchanged.names]
        rfl

end Saved

/-! ### Opening databases again -/

/-- A new catalog opens every database with the tables that it had, if every
snapshot was written, no primary key is a float that is not finite, and every float
is read back as it was printed. -/
theorem obeyAll_reopens {configuration : Configuration} {directory : Directory}
    {commands : List Command} (persistent : configuration.persistent = true)
    (fresh : ∀ name, directory.read? (Configuration.snapshotFile name) = none)
    (accepts : ∀ command ∈ commands, isDatabaseName command.name = true →
      directory.accepts (Configuration.snapshotFile command.name) = true)
    (recoverable : ∀ entry ∈ ((start configuration directory).obeyAll commands).databases.entries,
      ∀ database ∈ entry.2.content, ∀ filed ∈ database.tables.entries, filed.2.KeysFinite ∧
        ∀ row ∈ filed.2.rows, ∀ cell ∈ row.2, cell.Readable)
    (now : DateTime) {name sql : String} (valid : isDatabaseName name = true)
    (parsed : Statement.parse sql = .ok .showTables) :
    (((start configuration directory).obeyAll commands).restart.execute now name sql).2 =
      .ok ((((start configuration directory).obeyAll commands).known name).content.getD
        (Database.empty name)).showTables := by
  have saved := (Saved.start persistent fresh).obeyAll accepts
  generalize (start configuration directory).obeyAll commands = catalog at saved recoverable ⊢
  have reopened := execute_showTables catalog.configuration catalog.directory now valid parsed
  refine reopened.trans (saved.stored_restart name fun database content => ?_)
  have listed : ∃ known, catalog.databases.get? name = some known ∧
      known.content = some database := by
    unfold Catalog.known at content
    cases found : catalog.databases.get? name with
    | none =>
        rw [found] at content
        cases content
    | some known =>
        rw [found] at content
        exact ⟨known, rfl, content⟩
  obtain ⟨known, found, content⟩ := listed
  exact recoverable _ (saved.ordered.get?_eq_some_iff.mp found) database content

/-- A gauge with a finite level, and a mark beyond all levels. -/
def gauging : List Command :=
  [⟨Database.leapDay, "plant", "CREATE TABLE gauge (level FLOAT PRIMARY KEY, mark FLOAT)"⟩,
    ⟨Database.leapDay, "plant", "INSERT INTO gauge (level, mark) VALUES (2.5, 1e999)"⟩]

/-- The gauge. -/
def gaugeTable : Table :=
  Database.keyedTable
    ⟨"gauge", [⟨"level", .float, true, none⟩, ⟨"mark", .float, false, none⟩], []⟩ 2
    [(1, [.float ⟨0x4004000000000000⟩, .float Binary64.infinity])]

/-- The gauge and its row are in memory, and saved. -/
theorem gauging_entries : ((start .default .empty).obeyAll gauging).databases.entries =
    [("plant", ⟨some ⟨"plant", ⟨[("gauge", gaugeTable)]⟩⟩, .ready, false⟩)] := by
  decide +kernel

/-- The text that asks for the tables of a database. -/
theorem parse_showTables : Statement.parse "SHOW TABLES" = .ok .showTables :=
  rfl

/-- The gauge is there again after a restart, although its mark is not finite. -/
theorem gauging_reopens :
    Configuration.default.persistent = true ∧
      (∀ name, Directory.empty.read? (Configuration.snapshotFile name) = none) ∧
      (∀ command ∈ gauging, isDatabaseName command.name = true →
        Directory.empty.accepts (Configuration.snapshotFile command.name) = true) ∧
      (∀ entry ∈ ((start .default .empty).obeyAll gauging).databases.entries,
        ∀ database ∈ entry.2.content, ∀ filed ∈ database.tables.entries, filed.2.KeysFinite ∧
          ∀ row ∈ filed.2.rows, ∀ cell ∈ row.2, cell.Readable) ∧
      isDatabaseName "plant" = true ∧ Statement.parse "SHOW TABLES" = .ok .showTables ∧
      (((start .default .empty).obeyAll gauging).restart.execute Database.leapDay "plant"
          "SHOW TABLES").2 =
        .ok ((((start .default .empty).obeyAll gauging).known "plant").content.getD
          (Database.empty "plant")).showTables := by
  have fresh : ∀ name, Directory.empty.read? (Configuration.snapshotFile name) = none :=
    fun _ => rfl
  have accepts : ∀ command ∈ gauging, isDatabaseName command.name = true →
      Directory.empty.accepts (Configuration.snapshotFile command.name) = true := by
    decide +kernel
  have recoverable : ∀ entry ∈ ((start .default .empty).obeyAll gauging).databases.entries,
      ∀ database ∈ entry.2.content, ∀ filed ∈ database.tables.entries, filed.2.KeysFinite ∧
        ∀ row ∈ filed.2.rows, ∀ cell ∈ row.2, cell.Readable := by
    rw [gauging_entries]
    decide +kernel
  exact ⟨rfl, fresh, accepts, recoverable, rfl, parse_showTables,
    obeyAll_reopens rfl fresh accepts recoverable Database.leapDay rfl parse_showTables⟩

/-- A table of floats. -/
def floatTable : Command :=
  ⟨Database.leapDay, "pesa", "CREATE TABLE t (id FLOAT PRIMARY KEY)"⟩

/-- A row whose primary key is beyond all finite floats. -/
def boundlessRow : Command :=
  ⟨Database.leapDay, "pesa", "INSERT INTO t (id) VALUES (1e999)"⟩

/-- The table with that row. -/
def boundlessTable : Table :=
  Database.keyedTable ⟨"t", [⟨"id", .float, true, none⟩], []⟩ 2
    [(1, [.float Binary64.infinity])]

/-- A table with an infinite primary key is not built from its snapshot. -/
theorem read_boundlessTable :
    Snapshot.read "./data/pesa.json" (Snapshot.ofTables ⟨[("t", boundlessTable)]⟩).text =
      .error (.snapshotTableInvalid "t" "./data/pesa.json"
        (.constraint (.nullPrimaryKey "id"))) := by
  have readable : (Snapshot.ofTables ⟨[("t", boundlessTable)]⟩).Readable := by
    refine ⟨List.pairwise_singleton _ _, fun entry member => ?_⟩
    rw [List.mem_singleton.mp member]
    exact StoredTable.ofTable_readable (by decide +kernel)
  rw [Snapshot.read, Snapshot.ofText?_text readable]
  decide +kernel

/-- The infinite key is accepted, and the file holds the snapshot of its table. -/
theorem boundlessRow_saved :
    Saved (start .default .empty) ((start .default .empty).obeyAll [floatTable, boundlessRow]) ∧
      ((start .default .empty).obeyAll [floatTable, boundlessRow]).directory.read?
          (Configuration.snapshotFile "pesa") =
        some (Snapshot.ofTables ⟨[("t", boundlessTable)]⟩).text := by
  have accepts : ∀ command ∈ [floatTable, boundlessRow],
      Directory.empty.accepts (Configuration.snapshotFile command.name) = true := by
    decide +kernel
  have begun : Saved (start .default .empty) (start .default .empty) :=
    Saved.start rfl fun _ => rfl
  have made := begun.obey floatTable fun _ => accepts _ List.mem_cons_self
  have saved := begun.obeyAll fun command member _ => accepts command member
  -- One evaluation of all three, since each of them reads the same texts.
  obtain ⟨content, changes, succeeds⟩ :
      (((start .default .empty).obeyAll [floatTable, boundlessRow]).known "pesa").content =
          some ⟨"pesa", ⟨[("t", boundlessTable)]⟩⟩ ∧
        (Statement.parse boundlessRow.sql).map Statement.isMutation = .ok true ∧
        (((start .default .empty).obey floatTable).execute boundlessRow.now boundlessRow.name
          boundlessRow.sql).2 = .ok (.changed 1) := by
    decide +kernel
  obtain ⟨statement, parsed, changes⟩ := map_eq_ok.mp changes
  have change := made.execute_change _ _ parsed changes succeeds
  change Change "pesa" _ ((start .default .empty).obeyAll [floatTable, boundlessRow]) at change
  obtain ⟨database, content', file⟩ := change.written
    ((made.accepts _).trans (accepts _ (List.mem_cons_of_mem _ List.mem_cons_self)))
  generalize (start .default .empty).obeyAll [floatTable, boundlessRow] = catalog
    at saved content content' file ⊢
  cases content.symm.trans content'
  exact ⟨saved, file⟩

/-- An infinite primary key is accepted and saved, and then its database cannot
be opened. -/
theorem boundlessRow_not_reopened :
    (∀ name, Directory.empty.read? (Configuration.snapshotFile name) = none) ∧
      (∀ command ∈ [floatTable, boundlessRow],
        Directory.empty.accepts (Configuration.snapshotFile command.name) = true) ∧
      (∀ name, (((start .default .empty).obeyAll [floatTable, boundlessRow]).known name).unsaved =
        false) ∧
      (((start .default .empty).obeyAll [floatTable, boundlessRow]).restart.execute
          Database.leapDay "pesa" "SHOW TABLES").2 =
        .error (.snapshotTableInvalid "t" "./data/pesa.json"
          (.constraint (.nullPrimaryKey "id"))) := by
  obtain ⟨saved, file⟩ := boundlessRow_saved
  refine ⟨fun _ => rfl, by decide +kernel, saved.saved, ?_⟩
  generalize (start .default .empty).obeyAll [floatTable, boundlessRow] = catalog at saved file ⊢
  have settings : catalog.configuration = .default := saved.configuration
  have path : Configuration.default.snapshotPath "pesa" = "./data/pesa.json" := by decide +kernel
  have unread : catalog.restart.stored "pesa" =
      .error (.snapshotTableInvalid "t" "./data/pesa.json"
        (.constraint (.nullPrimaryKey "id"))) := by
    have same : catalog.restart.stored "pesa" = catalog.stored "pesa" := stored_congr rfl rfl
    rw [same, stored, if_pos saved.persistent, settings, path, file]
    exact congrArg (Except.map fun tables => Database.mk "pesa" tables) read_boundlessTable
  have valid : isDatabaseName "pesa" = true := rfl
  have reopened := execute_showTables catalog.configuration catalog.directory Database.leapDay
    valid parse_showTables
  exact reopened.trans (congrArg (Except.map Database.showTables) unread)

end Catalog

end Relational
