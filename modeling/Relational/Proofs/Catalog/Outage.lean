import Relational.Proofs.Catalog.Durability

/-!
# A data directory that is out of service

Something else may stand in the place of the data directory.  Then no file is found and none
is written: every database starts out empty, and what statements make of it stays in memory.
Nothing is lost by that.  Once the place is cleared there is an empty directory, and the
catalog goes on over it with marks that tell which databases have to be written.
-/

namespace Relational

namespace Directory

variable {directory : Directory} {file text : String}

/-- A blocked directory takes no file. -/
theorem accepts_of_blocked (blocked : directory.blocked = true) (file : String) :
    directory.accepts file = false := by
  rw [accepts, blocked]
  rfl

/-- No file of a blocked directory is replaced. -/
theorem replace?_of_blocked (blocked : directory.blocked = true) (file text : String) :
    directory.replace? file text = none := by
  rw [replace?, accepts_of_blocked blocked]
  rfl

end Directory

namespace Catalog

variable {catalog : Catalog} {name : String} {database : Database} {now : DateTime}
  {statement : Statement}

/-! ### No file is written -/

/-- Saving a database over a blocked directory leaves the directory as it is. -/
theorem Saves.directory_of_blocked {known : KnownDatabase} {result : Catalog × Except Error Unit}
    (saves : Saves catalog name known database result)
    (blocked : catalog.directory.blocked = true) : result.1.directory = catalog.directory := by
  cases saves with
  | written replaced =>
      rw [Directory.replace?_of_blocked blocked] at replaced
      cases replaced
  | refused _ => rfl

/-- A statement that is run over a blocked directory writes nothing. -/
theorem Runs.directory_of_blocked {result : Catalog × Except Error Outcome}
    (runs : Runs now catalog name statement result)
    (blocked : catalog.directory.blocked = true) : result.1.directory = catalog.directory := by
  cases runs with
  | unloaded loads => exact loads.quiet.directory
  | read loads _ => exact loads.quiet.directory
  | failed loads _ _ => exact loads.quiet.directory
  | changed loads _ _ _ saves =>
      have directory := loads.quiet.directory
      rw [← directory] at blocked
      exact (saves.directory_of_blocked blocked).trans directory

/-- A flush over a blocked directory writes nothing. -/
theorem flushAll_directory_of_blocked (persistent : catalog.configuration.persistent = true)
    (blocked : catalog.directory.blocked = true) :
    catalog.flushAll.1.directory = catalog.directory := by
  -- Whether snapshots are kept has to be known of every catalog on the way, too.
  have kept : catalog.flushAll.1.directory = catalog.directory ∧
      catalog.flushAll.1.configuration = catalog.configuration := by
    refine flushAll_induction (fun current => current.directory = catalog.directory ∧
      current.configuration = catalog.configuration) ⟨rfl, rfl⟩ ?_
    rintro current ⟨directory, configuration⟩ entry _ _ database _
    have saves := save_saves (configuration ▸ persistent) entry.1 entry.2 database
    exact ⟨(saves.directory_of_blocked (directory ▸ blocked)).trans directory,
      saves.concerns.configuration.trans configuration⟩
  exact kept.1

/-- No request writes to a blocked directory. -/
theorem Orderly.perform_directory_of_blocked (orderly : catalog.Orderly)
    (blocked : catalog.directory.blocked = true) (request : Request) :
    (catalog.perform request).directory = catalog.directory := by
  cases request with
  | execute command =>
      rw [perform, obey]
      rcases execute_cases command.now catalog command.name command.sql with
        ⟨error, refused⟩ | ⟨statement, _, ran⟩
      · rw [refused]
      · rw [ran]
        exact (run_runs orderly.persistent _ _ statement).directory_of_blocked blocked
  | flush => exact flushAll_directory_of_blocked orderly.persistent blocked
  | restart => rfl

/-- Over a blocked directory nothing is written at any time. -/
theorem Orderly.serveAll_blocked (orderly : catalog.Orderly)
    (blocked : catalog.directory.blocked = true) (occasions : List Occasion) :
    ∃ refuses, (catalog.serveAll occasions).directory =
      { catalog.directory with refuses := refuses } := by
  induction occasions generalizing catalog with
  | nil => exact ⟨_, rfl⟩
  | cons occasion rest ih =>
      have served : (catalog.serve occasion).directory =
          { catalog.directory with refuses := occasion.refuses } :=
        (orderly.refusing occasion.refuses).perform_directory_of_blocked blocked occasion.request
      obtain ⟨refuses, later⟩ := ih (orderly.serve occasion) (by rw [served]; exact blocked)
      exact ⟨refuses, later.trans (by rw [served])⟩

/-! ### The directory is back -/

/-- Where there is no file, a database that is level with its file is empty. -/
theorem Level.empty_of_absent (level : catalog.Level name database)
    (absent : catalog.directory.read? (Configuration.snapshotFile name) = none) :
    database.Indistinguishable (Database.empty name) := by
  rcases level with written | ⟨loaded, stored, same⟩
  · rw [absent] at written
    cases written
  · unfold Catalog.stored at stored
    rw [absent] at stored
    split at stored <;> cases stored <;> exact same

/-- Whatever is asked of a catalog while its data directory is blocked, clearing the place
leaves an empty directory over which the marks are right.  A database that is not marked as
unsaved is as empty as one that was never used. -/
theorem outage_bookkept {configuration : Configuration}
    (persistent : configuration.persistent = true) (occasions : List Occasion) :
    ((start configuration .block).serveAll occasions).directory.unblock? = some .empty ∧
      Bookkept { (start configuration .block).serveAll occasions with directory := .empty } ∧
      ∀ name database,
        (((start configuration .block).serveAll occasions).known name).content = some database →
        (((start configuration .block).serveAll occasions).known name).unsaved = false →
          database.Indistinguishable (Database.empty name) := by
  have started := start_orderly persistent Directory.block
  have orderly := started.serveAll occasions
  obtain ⟨refuses, unwritten⟩ := started.serveAll_blocked rfl occasions
  refine ⟨by rw [unwritten]; rfl, ?_, fun name database content saved => ?_⟩
  · exact (orderly.over fun _ => by rw [unwritten]; rfl).bookkept
  · exact (orderly.level name database content saved).empty_of_absent (by rw [unwritten]; rfl)

/-- A table made during an outage is lost by a restart, and one made behind it has to be
written. -/
example :
    let ask (name sql : String) : Occasion :=
      ⟨fun _ => false, .execute ⟨Database.leapDay, name, sql⟩⟩
    (((start .default .block).serveAll
        [ask "plant" "CREATE TABLE tank (id INT PRIMARY KEY)", ⟨fun _ => false, .restart⟩,
          ask "plant" "SHOW TABLES",
          ask "mill" "CREATE TABLE wheel (id INT PRIMARY KEY)"]).databases.entries.map
      fun entry => (entry.1, entry.2.content.isSome, entry.2.unsaved)) =
        [("mill", true, true), ("plant", true, false)] := by
  decide +kernel

end Catalog

end Relational
