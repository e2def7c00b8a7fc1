import Relational.Proofs.Catalog.Step

/-!
# Databases level with their files

A database in memory is level with its file if the file holds its snapshot, or
if nothing changed since it was loaded from the file.  A catalog that keeps
snapshots is in order if every database in memory is reachable and is marked as
unsaved or level with its file.  Loading and saving a database keep it so.
-/

namespace Relational

namespace Catalog

/-- The catalog while some files cannot be replaced. -/
def refusing (catalog : Catalog) (refuses : String → Bool) : Catalog :=
  { catalog with directory := { catalog.directory with refuses := refuses } }

/-- The file of a database holds its snapshot, or the database is still what was
loaded from the file. -/
def Level (catalog : Catalog) (name : String) (database : Database) : Prop :=
  catalog.directory.read? (Configuration.snapshotFile name) =
      some (Snapshot.ofTables database.tables).text ∨
    ∃ loaded, catalog.stored name = .ok loaded ∧ Database.Indistinguishable database loaded

/-- A catalog that keeps snapshots, in which every database in memory is marked
as unsaved or level with its file. -/
structure Orderly (catalog : Catalog) : Prop where
  persistent : catalog.configuration.persistent = true
  ordered : catalog.databases.Ordered
  loaded : ∀ name, (catalog.known name).unsaved = true → (catalog.known name).content.isSome
  reachable : ∀ name database, (catalog.known name).content = some database → database.Reachable
  level : ∀ name database, (catalog.known name).content = some database →
    (catalog.known name).unsaved = false → catalog.Level name database

variable {catalog after : Catalog} {name : String} {database : Database}

/-- Only the file of a database decides whether the database is level with it. -/
theorem Level.congr (configuration : after.configuration = catalog.configuration)
    (file : after.directory.read? (Configuration.snapshotFile name) =
      catalog.directory.read? (Configuration.snapshotFile name))
    (level : catalog.Level name database) : after.Level name database := by
  rwa [Level, stored_congr configuration file, file]

/-- What nothing tells from a level database is level too. -/
theorem Level.of_indistinguishable {changed : Database} (level : catalog.Level name database)
    (same : Database.Indistinguishable changed database) (ordered : changed.tables.Ordered)
    (ordered' : database.tables.Ordered) : catalog.Level name changed := by
  rcases level with written | ⟨loaded, stored, unchanged⟩
  · left
    rw [written, same.ofTables_eq ordered ordered']
  · exact Or.inr ⟨loaded, stored, same.trans unchanged⟩

/-- A change of what concerns one database. -/
structure Concerns (name : String) (catalog after : Catalog) : Prop where
  configuration : after.configuration = catalog.configuration
  databases : ∃ known, after.databases = catalog.databases.insert name known
  files : ∀ other ≠ name, after.directory.read? (Configuration.snapshotFile other) =
    catalog.directory.read? (Configuration.snapshotFile other)

theorem withKnown_concerns (catalog : Catalog) (name : String) (known : KnownDatabase) :
    Concerns name catalog (catalog.withKnown name known) :=
  ⟨rfl, ⟨known, rfl⟩, fun _ _ => rfl⟩

/-- What concerns one database leaves the others known as they were. -/
theorem Concerns.known_of_ne (concerns : Concerns name catalog after) {other : String}
    (elsewhere : other ≠ name) : after.known other = catalog.known other := by
  obtain ⟨known, databases⟩ := concerns.databases
  rw [Catalog.known, databases, NameMap.get?_insert, if_neg elsewhere]
  rfl

/-- A catalog stays in order if what a change concerns is. -/
theorem Orderly.of_concerns (orderly : catalog.Orderly) (concerns : Concerns name catalog after)
    (loaded : (after.known name).unsaved = true → (after.known name).content.isSome)
    (reachable : ∀ database, (after.known name).content = some database → database.Reachable)
    (level : ∀ database, (after.known name).content = some database →
      (after.known name).unsaved = false → after.Level name database) : after.Orderly := by
  constructor
  · rw [concerns.configuration]
    exact orderly.persistent
  · obtain ⟨known, databases⟩ := concerns.databases
    rw [databases]
    exact orderly.ordered.insert name known
  · intro other unsaved
    by_cases here : other = name
    · subst here
      exact loaded unsaved
    · rw [concerns.known_of_ne here] at unsaved ⊢
      exact orderly.loaded other unsaved
  · intro other database content
    by_cases here : other = name
    · subst here
      exact reachable database content
    · rw [concerns.known_of_ne here] at content
      exact orderly.reachable other database content
  · intro other database content saved
    by_cases here : other = name
    · subst here
      exact level database content saved
    · rw [concerns.known_of_ne here] at content saved
      exact (orderly.level other database content saved).congr concerns.configuration
        (concerns.files other here)

/-- A new catalog that keeps snapshots is in order. -/
theorem start_orderly {configuration : Configuration} (persistent : configuration.persistent = true)
    (directory : Directory) : (start configuration directory).Orderly where
  persistent := persistent
  ordered := NameMap.Ordered.empty
  loaded := fun _ unsaved => nomatch unsaved
  reachable := fun _ _ content => nomatch content
  level := fun _ _ content => nomatch content

/-- A catalog stays in order over another directory with the same files. -/
theorem Orderly.over (orderly : catalog.Orderly) {directory : Directory}
    (same : ∀ file, directory.read? file = catalog.directory.read? file) :
    Orderly { catalog with directory := directory } where
  persistent := orderly.persistent
  ordered := orderly.ordered
  loaded := orderly.loaded
  reachable := orderly.reachable
  level := by
    intro name database content saved
    refine Level.congr ?_ (same _) (orderly.level name database content saved)
    rfl

theorem Orderly.refusing (orderly : catalog.Orderly) (refuses : String → Bool) :
    (catalog.refusing refuses).Orderly :=
  orderly.over fun _ => rfl

/-! ### Loading and saving -/

/-- A step that changes no file and no mark. -/
structure Quiet (catalog after : Catalog) : Prop where
  directory : after.directory = catalog.directory
  unsaved : ∀ name, (after.known name).unsaved = (catalog.known name).unsaved

theorem Quiet.refl (catalog : Catalog) : Quiet catalog catalog :=
  ⟨rfl, fun _ => rfl⟩

theorem Quiet.trans {third : Catalog} (first : Quiet catalog after) (next : Quiet after third) :
    Quiet catalog third :=
  ⟨next.directory.trans first.directory,
    fun name => (next.unsaved name).trans (first.unsaved name)⟩

/-- Other knowledge of a database with the same mark. -/
theorem withKnown_quiet {known : KnownDatabase}
    (same : known.unsaved = (catalog.known name).unsaved) :
    Quiet catalog (catalog.withKnown name known) := by
  refine ⟨rfl, fun other => ?_⟩
  rw [known_withKnown]
  split
  · rename_i here
    rw [here, same]
  · rfl

namespace Loads

variable {result : Catalog × Except Error Database}

/-- Loading a database concerns it alone. -/
theorem concerns (loads : Loads catalog name result) : Concerns name catalog result.1 := by
  cases loads <;> exact withKnown_concerns _ _ _

/-- Loading a database is a quiet step. -/
theorem quiet (loads : Loads catalog name result) : Quiet catalog result.1 := by
  cases loads <;> exact withKnown_quiet rfl

/-- What was loaded is in memory from then on. -/
theorem content (loads : Loads catalog name result) (succeeds : result.2 = .ok database) :
    (result.1.known name).content = some database := by
  cases loads with
  | present content =>
      cases succeeds
      rw [known_withKnown, if_pos rfl, content]
  | read content stored =>
      cases succeeds
      rw [known_withKnown, if_pos rfl]
  | refused content stored => cases succeeds

/-- Loading leaves a catalog in order. -/
theorem orderly (loads : Loads catalog name result) (orderly : catalog.Orderly) :
    result.1.Orderly := by
  have concerns := loads.concerns
  cases loads with
  | present content =>
      refine orderly.of_concerns concerns ?_ ?_ ?_ <;> simp only [known_withKnown, if_pos]
      · exact orderly.loaded name
      · exact orderly.reachable name
      · intro database content saved
        exact (orderly.level name database content saved).congr rfl rfl
  | read content stored =>
      refine orderly.of_concerns concerns ?_ ?_ ?_ <;> simp only [known_withKnown, if_pos]
      · exact fun _ => rfl
      · rintro database ⟨⟩
        exact stored_reachable stored
      · rintro database ⟨⟩ -
        exact Or.inr ⟨_, stored, .of_eq rfl⟩
  | refused content stored =>
      refine orderly.of_concerns concerns ?_ ?_ ?_ <;> simp only [known_withKnown, if_pos]
      · intro unsaved
        have loaded := orderly.loaded name unsaved
        rw [content] at loaded
        exact loaded
      · exact fun _ none => nomatch none
      · exact fun _ none => nomatch none

end Loads

namespace Saves

variable {known : KnownDatabase} {result : Catalog × Except Error Unit}

/-- Saving a database concerns it alone. -/
theorem concerns (saves : Saves catalog name known database result) :
    Concerns name catalog result.1 := by
  cases saves with
  | written replaced =>
      refine ⟨rfl, ⟨_, rfl⟩, fun other elsewhere => ?_⟩
      exact (Directory.read?_of_replace? replaced other).trans (if_neg elsewhere)
  | refused _ => exact withKnown_concerns _ _ _

/-- Saving a database keeps its content. -/
theorem content (saves : Saves catalog name known database result) :
    (result.1.known name).content = known.content := by
  cases saves with
  | @written directory _ =>
      have entry : Catalog.known { catalog.withKnown name ⟨known.content, .ready, false⟩ with
          directory := directory } name = ⟨known.content, .ready, false⟩ :=
        (known_withKnown catalog name _ name).trans (if_pos rfl)
      rw [entry]
  | refused _ => rw [known_withKnown, if_pos rfl]

/-- After an attempt to write its snapshot a database is unsaved exactly if its
file could not be replaced. -/
theorem unsaved_iff (saves : Saves catalog name known database result) :
    (result.1.known name).unsaved = true ↔
      catalog.directory.accepts (Configuration.snapshotFile name) = false := by
  cases saves with
  | @written directory replaced =>
      have accepted : ¬ catalog.directory.accepts (Configuration.snapshotFile name) = false := by
        rw [← Directory.replace?_eq_none_iff, replaced]
        simp
      have saved : ((catalog.withKnown name ⟨known.content, .ready, false⟩).known name).unsaved =
          false := by
        rw [known_withKnown, if_pos rfl]
      exact iff_of_false (ne_true_of_eq_false saved) accepted
  | refused refused =>
      rw [known_withKnown, if_pos rfl]
      exact iff_of_true rfl refused

/-- A database that was saved is not marked as unsaved. -/
theorem saved_of_ok (saves : Saves catalog name known database result)
    (succeeds : result.2 = .ok ()) : (result.1.known name).unsaved = false := by
  cases saves with
  | written _ =>
      exact congrArg KnownDatabase.unsaved
        ((known_withKnown catalog name _ name).trans (if_pos rfl))
  | refused _ => cases succeeds

/-- Writing a snapshot of what is in memory leaves a catalog in order. -/
theorem orderly (saves : Saves catalog name known database result) (orderly : catalog.Orderly)
    (content : known.content = some database) (reachable : database.Reachable) :
    result.1.Orderly := by
  have concerns := saves.concerns
  cases saves with
  | @written directory replaced =>
      have entry : Catalog.known { catalog.withKnown name ⟨known.content, .ready, false⟩ with
          directory := directory } name = ⟨some database, .ready, false⟩ := by
        rw [← content]
        exact (known_withKnown catalog name _ name).trans (if_pos rfl)
      refine orderly.of_concerns concerns ?_ ?_ ?_ <;> rw [entry]
      · exact fun _ => rfl
      · rintro _ ⟨⟩
        exact reachable
      · rintro _ ⟨⟩ -
        exact Or.inl ((Directory.read?_of_replace? replaced name).trans (if_pos rfl))
  | refused _ =>
      refine orderly.of_concerns concerns ?_ ?_ ?_ <;>
        rw [known_withKnown, if_pos rfl, content]
      · exact fun _ => rfl
      · rintro _ ⟨⟩
        exact reachable
      · exact fun _ _ saved => nomatch saved

/-- If the snapshot was written, its file holds what is in memory, and else no
file changed. -/
theorem files (saves : Saves catalog name known database result) :
    (catalog.directory.accepts (Configuration.snapshotFile name) = true ∧
      result.1.directory.read? (Configuration.snapshotFile name) =
        some (Snapshot.ofTables database.tables).text) ∨
      catalog.directory.accepts (Configuration.snapshotFile name) = false ∧
        result.1.directory = catalog.directory := by
  cases saves with
  | written replaced =>
      refine Or.inl ⟨?_, (Directory.read?_of_replace? replaced name).trans (if_pos rfl)⟩
      rw [← Bool.not_eq_false, ← Directory.replace?_eq_none_iff, replaced]
      simp
  | refused refused => exact Or.inr ⟨refused, rfl⟩

end Saves

end Catalog

end Relational
