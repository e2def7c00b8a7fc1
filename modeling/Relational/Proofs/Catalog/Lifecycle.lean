import Relational.Proofs.Catalog.Agreement

/-!
# The stages of databases

Between requests a database is ready if it is in memory, and unloaded otherwise:
whatever is asked of a catalog, and whatever others do to its files, a database
is neither left as being read nor as being written.
-/

namespace Relational

/-- A database that is neither being read nor being written.  Only what is in
memory can be unsaved. -/
structure KnownDatabase.Settled (known : KnownDatabase) : Prop where
  lifecycle : known.lifecycle = if known.content.isSome then .ready else .unloaded
  loaded : known.unsaved = true → known.content.isSome = true

namespace Catalog

/-- A catalog all of whose databases are settled. -/
structure Settled (configuration : Configuration) (catalog : Catalog) : Prop where
  configuration : catalog.configuration = configuration
  ordered : catalog.databases.Ordered
  known : ∀ name, (catalog.known name).Settled

variable {catalog after : Catalog} {name : String} {database : Database}
  {configuration : Configuration}

/-- A new catalog is settled. -/
theorem start_settled (configuration : Configuration) (directory : Directory) :
    (start configuration directory).Settled configuration where
  configuration := rfl
  ordered := NameMap.Ordered.empty
  known := fun _ => ⟨rfl, nofun⟩

/-- A catalog stays settled if the database that a change concerns is. -/
theorem Settled.of_concerns (settled : catalog.Settled configuration)
    (concerns : Concerns name catalog after) (here : (after.known name).Settled) :
    after.Settled configuration := by
  constructor
  · exact concerns.configuration.trans settled.configuration
  · obtain ⟨known, databases⟩ := concerns.databases
    rw [databases]
    exact settled.ordered.insert name known
  · intro other
    by_cases same : other = name
    · exact same ▸ here
    · rw [concerns.known_of_ne same]
      exact settled.known other

/-- The stages of the databases that were asked for. -/
theorem Settled.lifecycle?_eq (settled : catalog.Settled configuration) (name : String) :
    catalog.lifecycle? name = (catalog.databases.get? name).map fun known =>
      if known.content.isSome then .ready else .unloaded := by
  unfold lifecycle?
  have settled' := settled.known name
  unfold Catalog.known at settled'
  cases found : catalog.databases.get? name with
  | none => rfl
  | some known =>
      rw [found] at settled'
      exact congrArg some settled'.lifecycle

/-- Loading a database settles it as ready or as unloaded. -/
theorem Loads.settled {result : Catalog × Except Error Database}
    (loads : Loads catalog name result) (settled : catalog.Settled configuration) :
    result.1.Settled configuration := by
  have before := settled.known name
  refine settled.of_concerns loads.concerns ?_
  cases loads with
  | present content =>
      rw [known_withKnown, if_pos rfl]
      exact before
  | read content _ =>
      rw [known_withKnown, if_pos rfl]
      exact ⟨rfl, fun _ => rfl⟩
  | refused content _ =>
      rw [known_withKnown, if_pos rfl]
      refine ⟨rfl, fun unsaved => ?_⟩
      rw [← content]
      exact before.loaded unsaved

/-- After an attempt to write its snapshot a database is ready. -/
theorem Saves.known_eq {known : KnownDatabase} {result : Catalog × Except Error Unit}
    (saves : Saves catalog name known database result) :
    ∃ unsaved, result.1.known name = ⟨known.content, .ready, unsaved⟩ := by
  cases saves with
  | written _ => exact ⟨false, (known_withKnown catalog name _ name).trans (if_pos rfl)⟩
  | refused _ => exact ⟨true, (known_withKnown catalog name _ name).trans (if_pos rfl)⟩

/-- Saving a database settles it as ready. -/
theorem Saves.settled {known : KnownDatabase} {result : Catalog × Except Error Unit}
    (saves : Saves catalog name known database result) (content : known.content = some database)
    (settled : catalog.Settled configuration) : result.1.Settled configuration := by
  refine settled.of_concerns saves.concerns ?_
  obtain ⟨unsaved, here⟩ := saves.known_eq
  rw [here, content]
  exact ⟨rfl, fun _ => rfl⟩

/-! ### What a statement does -/

section Runs

variable {now : DateTime} {statement : Statement} {result : Catalog × Except Error Outcome}

/-- Running a statement leaves a catalog settled. -/
theorem Runs.settled (runs : Runs now catalog name statement result)
    (settled : catalog.Settled configuration) : result.1.Settled configuration := by
  cases runs with
  | unloaded loads => exact loads.settled settled
  | read loads _ => exact loads.settled settled
  | @failed loaded database error loads _ _ =>
      have settled' : loaded.Settled configuration := loads.settled settled
      have content : (loaded.known name).content = some database := loads.content rfl
      have before := settled'.known name
      refine settled'.of_concerns (withKnown_concerns loaded name _) ?_
      rw [known_withKnown, if_pos rfl]
      refine ⟨?_, fun _ => rfl⟩
      have lifecycle := before.lifecycle
      rw [content] at lifecycle
      exact lifecycle
  | changed loads _ _ content saves => exact saves.settled content (loads.settled settled)

end Runs

/-! ### What a flush does -/

/-- A flush leaves a catalog settled. -/
theorem Settled.flushAll (settled : catalog.Settled configuration)
    (persistent : configuration.persistent = true) :
    catalog.flushAll.1.Settled configuration := by
  refine flushAll_induction (Settled configuration) settled
    fun current settled entry _ _ database content => ?_
  have saves := save_saves (by rw [settled.configuration, persistent]) entry.1 entry.2 database
  exact saves.settled content settled

/-- A flush leaves alone what is not unsaved. -/
theorem Settled.agreeOn_flushAll (settled : catalog.Settled configuration)
    (saved : (catalog.known name).unsaved = false) : AgreeOn name catalog catalog.flushAll.1 := by
  refine flushAll_induction (AgreeOn name catalog) (.refl name _)
    fun current agree entry member unsaved database _ =>
      agree.trans (agreeOn_save current ?_ entry.2 database)
  rintro rfl
  rw [Catalog.known, settled.ordered.get?_eq_some_iff.mpr member] at saved
  cases unsaved.symm.trans saved

/-! ### Events -/

/-- What happens to a catalog: it is asked for something, or someone else is at
its files. -/
inductive Event where
  | request (request : Request)
  | tableSchema (name table : String)
  | intrusion (directory : Directory)

namespace Event

/-- Nobody else puts another text in the place of a file. -/
def Spares (file : String) (text? : Option String) : Event → Prop
  | .intrusion directory => directory.read? file = text?
  | _ => True

/-- No statement is run on a database. -/
def Passes (name : String) : Event → Prop
  | .request (.execute command) =>
      command.name = name → ∀ statement, Statement.parse command.sql ≠ .ok statement
  | _ => True

/-- Putting a file there by hand spares every other file. -/
theorem spares_of_put? {directory changed : Directory} {path text file : String}
    (put : directory.put? path text = some changed)
    (elsewhere : Directory.fileAt? path ≠ some file) :
    (intrusion changed).Spares file (directory.read? file) := by
  rw [Spares, Directory.read?_of_put? put, if_neg elsewhere]

end Event

/-- The catalog after an event. -/
def meet (catalog : Catalog) : Event → Catalog
  | .request request => catalog.perform request
  | .tableSchema name table => (catalog.tableSchema name table).1
  | .intrusion directory => { catalog with directory := directory }

/-- The catalog after a series of events. -/
def meetAll (catalog : Catalog) (events : List Event) : Catalog :=
  events.foldl meet catalog

/-- Asking for a schema comes to nothing, or to loading the database. -/
theorem tableSchema_cases (catalog : Catalog) (name table : String) :
    (∃ error, catalog.tableSchema name table = (catalog, .error error)) ∨
      ∃ loading, Loads catalog name loading ∧ catalog.tableSchema name table =
        (loading.1, loading.2 >>= fun database => (database.table table).map Table.schema) := by
  unfold tableSchema
  split
  · exact Or.inl ⟨_, rfl⟩
  · have loads := load_loads catalog name
    split <;> rename_i loading <;> exact Or.inr ⟨_, loads, by rw [loading]; rfl⟩

/-- Every event leaves a catalog settled. -/
theorem Settled.meet (settled : catalog.Settled configuration)
    (persistent : configuration.persistent = true) (event : Event) :
    (catalog.meet event).Settled configuration := by
  cases event with
  | request request =>
      cases request with
      | execute command =>
          change (catalog.execute command.now command.name command.sql).1.Settled configuration
          rcases execute_cases command.now catalog command.name command.sql with
            ⟨error, refused⟩ | ⟨statement, -, ran⟩
          · rw [refused]
            exact settled
          · rw [ran]
            have persistent' := settled.configuration ▸ persistent
            exact (run_runs persistent' command.now command.name statement).settled settled
      | flush => exact settled.flushAll persistent
      | restart =>
          rw [← settled.configuration]
          exact start_settled catalog.configuration catalog.directory
  | tableSchema name table =>
      change (catalog.tableSchema name table).1.Settled configuration
      rcases tableSchema_cases catalog name table with ⟨error, refused⟩ | ⟨loading, loads, result⟩
      · rw [refused]
        exact settled
      · rw [result]
        exact loads.settled settled
  | intrusion directory => exact ⟨settled.configuration, settled.ordered, settled.known⟩

/-- Every series of events leaves a catalog settled. -/
theorem Settled.meetAll (settled : catalog.Settled configuration)
    (persistent : configuration.persistent = true) (events : List Event) :
    (catalog.meetAll events).Settled configuration := by
  induction events generalizing catalog with
  | nil => exact settled
  | cons event rest ih => exact ih (settled.meet persistent event)

end Catalog

end Relational
