import Relational.Proofs.Catalog.Lifecycle

/-!
# Databases whose snapshots cannot be read

A database whose snapshot cannot be read never gets into memory, and what is not
in memory is not written, so that its file stays as it is through whatever is
asked of the catalog.  Once someone else has put a snapshot there that can be
read, the next statement runs on what that snapshot describes.
-/

namespace Relational

namespace Snapshot

/-- Tables that cannot be restored are an error of persistence. -/
theorem restoreEntries_error_kind {path : String} {entries : List (String × StoredTable)}
    {error : Error} (fails : restoreEntries path entries = .error error) :
    error.kind = "PersistenceError" := by
  induction entries with
  | nil => cases fails
  | cons entry rest ih =>
      rw [restoreEntries] at fails
      split at fails
      · cases fails
        rfl
      · rcases bind_eq_error.mp fails with restored | ⟨_, -, fails⟩
        · exact ih restored
        · cases fails

/-- A snapshot that cannot be read is an error of one kind. -/
theorem read_error_kind {path text : String} {error : Error}
    (fails : Snapshot.read path text = .error error) : error.kind = "PersistenceError" := by
  unfold Snapshot.read at fails
  split at fails
  · rcases bind_eq_error.mp fails with restored | ⟨_, -, fails⟩
    · exact restoreEntries_error_kind restored
    · cases fails
  · cases fails
    rfl

end Snapshot

namespace Catalog

variable {catalog after : Catalog} {name : String} {database : Database} {error : Error}
  {configuration : Configuration}

/-- A database that cannot be loaded is an error of persistence. -/
theorem stored_error_kind (fails : catalog.stored name = .error error) :
    error.kind = "PersistenceError" := by
  unfold stored at fails
  split at fails
  · split at fails
    · exact Snapshot.read_error_kind (map_eq_error.mp fails)
    · cases fails
  · cases fails

/-! ### What a statement does to the database that it is for -/

section Runs

variable {now : DateTime} {statement : Statement} {result : Catalog × Except Error Outcome}

/-- A statement on a database that cannot be loaded fails, and changes no file. -/
theorem Runs.of_unreadable (runs : Runs now catalog name statement result)
    (absent : (catalog.known name).content = none) (fails : catalog.stored name = .error error) :
    result.2 = .error error ∧ result.1 =
      catalog.withKnown name ⟨none, .unloaded, (catalog.known name).unsaved⟩ := by
  have refused {loading : Catalog × Except Error Database} (loads : Loads catalog name loading) :
      loading =
        (catalog.withKnown name ⟨none, .unloaded, (catalog.known name).unsaved⟩, .error error) := by
    cases loads with
    | present content =>
        rw [absent] at content
        cases content
    | read _ stored =>
        rw [fails] at stored
        cases stored
    | refused _ stored =>
        cases fails.symm.trans stored
        rfl
  cases runs with
  | unloaded loads =>
      cases refused loads
      exact ⟨rfl, rfl⟩
  | read loads _ => cases refused loads
  | failed loads _ _ => cases refused loads
  | changed loads _ _ _ _ => cases refused loads

/-- A statement on a database that is as its file describes it runs on that. -/
theorem Runs.of_stored (runs : Runs now catalog name statement result)
    (current : ∀ content, (catalog.known name).content = some content →
      catalog.stored name = .ok content) (stored : catalog.stored name = .ok database) :
    result.2 = (database.execute now statement).2 ∧
      (result.1.known name).content = some (database.execute now statement).1 := by
  have loaded {loading : Catalog × Except Error Database} (loads : Loads catalog name loading) :
      loading.2 = .ok database := by
    cases loads with
    | present content => exact (current _ content).symm.trans stored
    | read _ stored' => exact stored'.symm.trans stored
    | refused _ stored' => cases stored.symm.trans stored'
  cases runs with
  | unloaded loads => cases loaded loads
  | read loads reads =>
      cases loaded loads
      rw [Database.execute_eq_query reads]
      exact ⟨rfl, loads.content rfl⟩
  | failed loads _ fails =>
      cases loaded loads
      rw [known_withKnown, if_pos rfl]
      exact ⟨fails.symm, rfl⟩
  | changed loads _ succeeds content saves =>
      cases loaded loads
      exact ⟨succeeds.symm, saves.content.trans content⟩

end Runs

/-! ### As filed -/

/-- A database that was not changed since its file was read, if it was. -/
structure AsFiled (catalog : Catalog) (name : String) (text? : Option String) : Prop where
  file : catalog.directory.read? (Configuration.snapshotFile name) = text?
  saved : (catalog.known name).unsaved = false
  current : ∀ database, (catalog.known name).content = some database →
    catalog.stored name = .ok database

variable {text? : Option String}

/-- A database whose file cannot be read is not in memory. -/
theorem AsFiled.absent (filed : catalog.AsFiled name text?)
    (fails : catalog.stored name = .error error) : (catalog.known name).content = none := by
  by_contra present
  obtain ⟨database, content⟩ := Option.ne_none_iff_exists'.mp present
  cases fails.symm.trans (filed.current database content)

/-- A step for another database leaves this one as it is. -/
theorem AsFiled.of_agreeOn (filed : catalog.AsFiled name text?)
    (agree : AgreeOn name catalog after) : after.AsFiled name text? where
  file := agree.file.trans filed.file
  saved := by rw [agree.known, filed.saved]
  current := by
    rw [agree.known, stored_congr agree.configuration agree.file]
    exact filed.current

/-- Loading a database makes it what its file describes. -/
theorem AsFiled.loads {loading : Catalog × Except Error Database}
    (filed : catalog.AsFiled name text?) (loads : Loads catalog name loading) :
    loading.1.AsFiled name text? := by
  have file : loading.1.directory.read? (Configuration.snapshotFile name) = text? := by
    rw [loads.quiet.directory, filed.file]
  refine ⟨file, (loads.quiet.unsaved name).trans filed.saved, fun database content => ?_⟩
  rw [stored_congr loads.configuration (file.trans filed.file.symm)]
  cases loads with
  | present content' =>
      rw [known_withKnown, if_pos rfl] at content
      exact filed.current database content
  | read _ stored =>
      rw [known_withKnown, if_pos rfl] at content
      cases content
      exact stored
  | refused _ _ =>
      rw [known_withKnown, if_pos rfl] at content
      cases content

/-- A statement on a database whose file cannot be read leaves it as filed. -/
theorem AsFiled.of_unreadable {now : DateTime} {statement : Statement}
    {result : Catalog × Except Error Outcome} (filed : catalog.AsFiled name text?)
    (runs : Runs now catalog name statement result) (fails : catalog.stored name = .error error) :
    result.1.AsFiled name text? := by
  rw [(runs.of_unreadable (filed.absent fails) fails).2]
  refine ⟨filed.file, ?_, ?_⟩ <;> rw [known_withKnown, if_pos rfl]
  · exact filed.saved
  · exact nofun

/-- A database stays as filed while nobody replaces its file, as long as no
statement is run on it or its file cannot be read. -/
theorem AsFiled.meet (filed : catalog.AsFiled name text?) (settled : catalog.Settled configuration)
    (persistent : configuration.persistent = true) {event : Event}
    (spares : event.Spares (Configuration.snapshotFile name) text?)
    (harmless : event.Passes name ∨ ∃ error, catalog.stored name = .error error) :
    (catalog.meet event).AsFiled name text? := by
  cases event with
  | request request =>
      cases request with
      | execute command =>
          obtain ⟨now, named, sql⟩ := command
          change (catalog.execute now named sql).1.AsFiled name text?
          by_cases here : name = named
          · subst here
            rcases execute_cases now catalog name sql with
              ⟨error, refused⟩ | ⟨statement, parsed, ran⟩
            · rw [refused]
              exact filed
            · rcases harmless with passes | ⟨error, fails⟩
              · exact absurd parsed (passes rfl statement)
              · rw [ran]
                exact filed.of_unreadable (run_runs (settled.configuration ▸ persistent) ..) fails
          · exact filed.of_agreeOn (agreeOn_execute here now sql)
      | flush => exact filed.of_agreeOn (settled.agreeOn_flushAll filed.saved)
      | restart => exact ⟨filed.file, rfl, nofun⟩
  | tableSchema named table =>
      change (catalog.tableSchema named table).1.AsFiled name text?
      by_cases here : name = named
      · subst here
        rcases tableSchema_cases catalog name table with
          ⟨error, refused⟩ | ⟨loading, loads, result⟩
        · rw [refused]
          exact filed
        · rw [result]
          exact filed.loads loads
      · exact filed.of_agreeOn (agreeOn_tableSchema here table)
  | intrusion directory =>
      refine ⟨spares, filed.saved, fun database content => ?_⟩
      have same : (catalog.meet (.intrusion directory)).stored name = catalog.stored name :=
        stored_congr rfl (spares.trans filed.file.symm)
      rw [same]
      exact filed.current database content

/-- A series of events that nobody else uses to replace the file of a database,
and in which no statement is run on it unless its file cannot be read. -/
theorem AsFiled.meetAll (filed : catalog.AsFiled name text?)
    (settled : catalog.Settled configuration) (persistent : configuration.persistent = true)
    {events : List Event}
    (spares : ∀ event ∈ events, event.Spares (Configuration.snapshotFile name) text?)
    (harmless : (∀ event ∈ events, event.Passes name) ∨
      ∃ error, catalog.stored name = .error error) :
    (catalog.meetAll events).AsFiled name text? ∧
      (catalog.meetAll events).stored name = catalog.stored name := by
  induction events generalizing catalog with
  | nil => exact ⟨filed, rfl⟩
  | cons event rest ih =>
      have settled' := settled.meet persistent event
      have filed' := filed.meet settled persistent (spares event List.mem_cons_self)
        (harmless.imp_left fun passes => passes event List.mem_cons_self)
      have stored : (catalog.meet event).stored name = catalog.stored name :=
        stored_congr (settled'.configuration.trans settled.configuration.symm)
          (filed'.file.trans filed.file.symm)
      rw [← stored] at harmless ⊢
      exact ih filed' settled' (fun later member => spares later (List.mem_cons_of_mem _ member))
        (harmless.imp_left fun passes later member => passes later (List.mem_cons_of_mem _ member))

/-! ### Unreadable files -/

/-- A database that the file of its snapshot keeps from being used: whatever is
asked of it fails with an error of persistence, and it stays unloaded. -/
structure Withheld (catalog : Catalog) (name : String) (error : Error) : Prop where
  kind : error.kind = "PersistenceError"
  unloaded : catalog.known name = KnownDatabase.unseen
  execute : ∀ now sql statement, Statement.parse sql = .ok statement →
    catalog.execute now name sql = (catalog.withKnown name KnownDatabase.unseen, .error error)
  tableSchema : ∀ table, catalog.tableSchema name table =
    (catalog.withKnown name KnownDatabase.unseen, .error error)

/-- The next statement on a database runs on given content. -/
def Presents (catalog : Catalog) (name : String) (database : Database) : Prop :=
  ∀ now sql statement, Statement.parse sql = .ok statement →
    (catalog.execute now name sql).2 = (database.execute now statement).2 ∧
      ((catalog.execute now name sql).1.known name).content =
        some (database.execute now statement).1

/-- A text that spells a statement is run as that statement on a database with a proper
name. -/
theorem execute_eq_run {now : DateTime} {sql : String} {statement : Statement}
    (valid : isDatabaseName name = true) (parsed : Statement.parse sql = .ok statement) :
    catalog.execute now name sql = catalog.run now name statement := by
  have checked : checkName name = .ok () := if_pos valid
  simp only [execute, checked, parsed]

/-- A database that is not in memory is as its file describes it. -/
theorem Settled.asFiled (settled : catalog.Settled configuration)
    (absent : (catalog.known name).content = none) :
    catalog.AsFiled name (catalog.directory.read? (Configuration.snapshotFile name)) := by
  refine ⟨rfl, ?_, fun database content => ?_⟩
  · by_contra unsaved
    have loaded := (settled.known name).loaded (Bool.not_eq_false _ ▸ unsaved)
    rw [absent] at loaded
    cases loaded
  · rw [absent] at content
    cases content

/-- A database that is as its unreadable file has it is withheld. -/
theorem AsFiled.withheld (filed : catalog.AsFiled name text?)
    (settled : catalog.Settled configuration) (persistent : configuration.persistent = true)
    (valid : isDatabaseName name = true) (fails : catalog.stored name = .error error) :
    catalog.Withheld name error := by
  have absent := filed.absent fails
  have unloaded : catalog.known name = KnownDatabase.unseen := by
    have lifecycle := (settled.known name).lifecycle
    have saved := filed.saved
    cases known : catalog.known name
    rw [known] at absent lifecycle saved
    cases absent
    cases saved
    cases lifecycle
    rfl
  refine ⟨stored_error_kind fails, unloaded, fun now sql statement parsed => ?_, fun table => ?_⟩
  · have runs := run_runs (settled.configuration ▸ persistent) now name statement
    obtain ⟨outcome, result⟩ := runs.of_unreadable absent fails
    rw [execute_eq_run valid parsed]
    refine Prod.ext ?_ outcome
    rw [result, unloaded]
    rfl
  · have checked : checkName name = .ok () := if_pos valid
    have loading : catalog.load name =
        (catalog.withKnown name KnownDatabase.unseen, .error error) := by
      simp only [load, unloaded, fails]
      rfl
    simp only [Catalog.tableSchema, checked, loading]

/-- A database that is as its readable file has it presents the content of the file. -/
theorem AsFiled.presents (filed : catalog.AsFiled name text?)
    (settled : catalog.Settled configuration) (persistent : configuration.persistent = true)
    (valid : isDatabaseName name = true) (stored : catalog.stored name = .ok database) :
    catalog.Presents name database := by
  intro now sql statement parsed
  rw [execute_eq_run valid parsed]
  exact (run_runs (settled.configuration ▸ persistent) now name statement).of_stored
    filed.current stored

/-- Once someone else has replaced the file of a database that is not in memory,
the next statement runs on what the new file describes. -/
theorem Settled.presents_of_replaced (settled : catalog.Settled configuration)
    (persistent : configuration.persistent = true) (valid : isDatabaseName name = true)
    (absent : (catalog.known name).content = none) {replaced : Directory} {next : List Event}
    (stored : (catalog.meet (.intrusion replaced)).stored name = .ok database)
    (harmless : ∀ event ∈ next, event.Passes name ∧
      event.Spares (Configuration.snapshotFile name)
        (replaced.read? (Configuration.snapshotFile name))) :
    ((catalog.meet (.intrusion replaced)).meetAll next).Presents name database := by
  have settled' := settled.meet persistent (.intrusion replaced)
  have absent' : ((catalog.meet (.intrusion replaced)).known name).content = none := absent
  obtain ⟨filed, unchanged⟩ := (settled'.asFiled absent').meetAll settled' persistent
    (fun event member => (harmless event member).2)
    (Or.inl fun event member => (harmless event member).1)
  exact filed.presents (settled'.meetAll persistent next) persistent valid
    (unchanged.trans stored)

/-- A document that is put in the place of the file by hand is what the next statement runs
on. -/
theorem Settled.presents_of_put? (settled : catalog.Settled configuration)
    (persistent : configuration.persistent = true) (valid : isDatabaseName name = true)
    (absent : (catalog.known name).content = none) {path text : String} {changed : Directory}
    {tables : NameMap Table} (put : catalog.directory.put? path text = some changed)
    (reaches : Directory.fileAt? path = some (Configuration.snapshotFile name))
    (reads : Snapshot.read (configuration.snapshotPath name) text = .ok tables) :
    (catalog.meet (.intrusion changed)).Presents name ⟨name, tables⟩ := by
  have file : changed.read? (Configuration.snapshotFile name) = some text := by
    rw [Directory.read?_of_put? put, if_pos reaches]
  have stored : (catalog.meet (.intrusion changed)).stored name = .ok ⟨name, tables⟩ := by
    change stored { catalog with directory := changed } name = _
    rw [Catalog.stored, settled.configuration, if_pos persistent, file]
    exact congrArg (Except.map _) reads
  have presents := settled.presents_of_replaced persistent valid absent stored
    (List.forall_mem_nil _)
  exact presents

/-- Whatever happens to a catalog that keeps snapshots, a database is ready if it
is in memory, and unloaded otherwise.  While the file of a database that is not in
memory cannot be read, the database is withheld and its file stays as it is, until
someone else replaces it; then the next statement runs on what is there. -/
theorem unreadable_withheld (persistent : configuration.persistent = true) (directory : Directory)
    (events : List Event) :
    (∀ name, ((start configuration directory).meetAll events).lifecycle? name =
      (((start configuration directory).meetAll events).databases.get? name).map fun known =>
        if known.content.isSome then .ready else .unloaded) ∧
    ∀ catalog name error, catalog = (start configuration directory).meetAll events →
      isDatabaseName name = true → (catalog.known name).content = none →
      catalog.stored name = .error error →
      ∀ later, (∀ event ∈ later, event.Spares (Configuration.snapshotFile name)
          (catalog.directory.read? (Configuration.snapshotFile name))) →
        (catalog.meetAll later).directory.read? (Configuration.snapshotFile name) =
            catalog.directory.read? (Configuration.snapshotFile name) ∧
          (catalog.meetAll later).Withheld name error ∧
          ∀ replaced database next,
            ((catalog.meetAll later).meet (.intrusion replaced)).stored name = .ok database →
            (∀ event ∈ next, event.Passes name ∧ event.Spares (Configuration.snapshotFile name)
              (replaced.read? (Configuration.snapshotFile name))) →
            (((catalog.meetAll later).meet (.intrusion replaced)).meetAll next).Presents name
              database := by
  have settled := (start_settled configuration directory).meetAll persistent events
  refine ⟨settled.lifecycle?_eq, ?_⟩
  intro catalog name error reached valid absent fails later spares
  rw [← reached] at settled
  have settled' := settled.meetAll persistent later
  obtain ⟨filed, unchanged⟩ :=
    (settled.asFiled absent).meetAll settled persistent spares (Or.inr ⟨error, fails⟩)
  have withheld := filed.withheld settled' persistent valid (unchanged.trans fails)
  refine ⟨filed.file, withheld, fun replaced database next stored harmless => ?_⟩
  exact settled'.presents_of_replaced persistent valid
    (congrArg KnownDatabase.content withheld.unloaded) stored harmless

/-- A directory in which the snapshot of the plant is cut short. -/
def damaged : Directory :=
  Directory.empty.put "plant.json" "\x7b"

/-- A directory in which it is whole again. -/
def repaired : Directory :=
  Directory.empty.put "plant.json" Database.tankDocument

/-- Events that try to use the plant in vain. -/
def attempts : List Event :=
  [.request (.execute ⟨Database.leapDay, "plant", "DROP TABLE tank"⟩),
    .tableSchema "plant" "tank", .request .flush,
    .intrusion (damaged.put "mill.json" "\x7b\x7d")]

/-- The repaired file is read as the tanks. -/
theorem stored_repaired :
    (start .default repaired).stored "plant" = .ok ⟨"plant", Database.tanks⟩ := by
  have file : (start .default repaired).directory.read? (Configuration.snapshotFile "plant") =
      some Database.tankDocument := by
    decide +kernel
  have reads : Snapshot.read (Configuration.default.snapshotPath "plant") Database.tankDocument =
      .ok Database.tanks := by
    have characters : Database.tankDocument = String.ofList (_ ++ _) := String.ofList_append.symm
    rw [characters]
    unfold Snapshot.read Snapshot.ofText? Json.ofText?
    rw [String.toList_ofList]
    decide +kernel
  have persistent : (start .default repaired).configuration.persistent = true := rfl
  rw [stored, if_pos persistent, file]
  exact congrArg (Except.map _) reads

/-- The plant is withheld through all attempts, and presented once its file is whole
again. -/
theorem damaged_withheld :
    Configuration.default.persistent = true ∧ isDatabaseName "plant" = true ∧
      (start .default damaged).stored "plant" = .error (.snapshotCorrupt "./data/plant.json") ∧
      ((start .default damaged).meetAll attempts).Withheld "plant"
        (.snapshotCorrupt "./data/plant.json") ∧
        (((start .default damaged).meetAll attempts).meet (.intrusion repaired)).Presents "plant"
          ⟨"plant", Database.tanks⟩ := by
  have fails : (start .default damaged).stored "plant" =
      .error (.snapshotCorrupt "./data/plant.json") := by
    decide +kernel
  have spared : (damaged.put "mill.json" "\x7b\x7d").read? (Configuration.snapshotFile "plant") =
      damaged.read? (Configuration.snapshotFile "plant") := by
    decide +kernel
  have spares : ∀ event ∈ attempts, event.Spares (Configuration.snapshotFile "plant")
      (damaged.read? (Configuration.snapshotFile "plant")) := by
    simp [attempts, Event.Spares, spared]
  have settled := (start_settled .default damaged).meetAll rfl attempts
  have whole : (((start .default damaged).meetAll attempts).meet (.intrusion repaired)).stored
      "plant" = .ok ⟨"plant", Database.tanks⟩ :=
    (stored_congr settled.configuration rfl).trans stored_repaired
  have persistent : Configuration.default.persistent = true := rfl
  obtain ⟨-, withholds⟩ := unreadable_withheld persistent damaged []
  obtain ⟨-, withheld, presents⟩ := withholds _ "plant" _ rfl rfl rfl fails attempts spares
  exact ⟨rfl, rfl, fails, withheld, presents repaired _ [] whole (List.forall_mem_nil _)⟩

end Catalog

end Relational
