import Relational.Proofs.Catalog.Durability

/-!
# Catalogs that agree on a database

What a step does to a database depends only on the configuration, on what is known
of that database and on the file of its snapshot: catalogs that agree on these
agree after the step, and answer it the same.  A step for another database leaves
a catalog that agrees with the one before.
-/

namespace Relational

namespace Catalog

/-! ### Agreement -/

/-- Two catalogs that are configured alike and know the same of a database, with
directories that hold the same snapshot of it and replace it alike. -/
structure AgreeOn (name : String) (first second : Catalog) : Prop where
  configuration : second.configuration = first.configuration
  known : second.known name = first.known name
  file : second.directory.read? (Configuration.snapshotFile name) =
    first.directory.read? (Configuration.snapshotFile name)
  accepts : second.directory.accepts (Configuration.snapshotFile name) =
    first.directory.accepts (Configuration.snapshotFile name)

/-- Results that are the same, with catalogs that agree on a database. -/
structure SameOn (name : String) {α : Type} (first second : Catalog × α) : Prop where
  agree : AgreeOn name first.1 second.1
  result : second.2 = first.2

variable {first second third : Catalog} {name other : String} {database : Database}
  {known : KnownDatabase}

theorem AgreeOn.refl (name : String) (catalog : Catalog) : AgreeOn name catalog catalog :=
  ⟨rfl, rfl, rfl, rfl⟩

theorem AgreeOn.symm (agree : AgreeOn name first second) : AgreeOn name second first :=
  ⟨agree.configuration.symm, agree.known.symm, agree.file.symm, agree.accepts.symm⟩

theorem AgreeOn.trans (agree : AgreeOn name first second) (agree' : AgreeOn name second third) :
    AgreeOn name first third where
  configuration := agree'.configuration.trans agree.configuration
  known := agree'.known.trans agree.known
  file := agree'.file.trans agree.file
  accepts := agree'.accepts.trans agree.accepts

/-! ### Steps for the database -/

namespace AgreeOn

/-- The same knowledge of a database keeps two catalogs in agreement on it. -/
theorem withKnown (agree : AgreeOn name first second) (known : KnownDatabase) :
    AgreeOn name (first.withKnown name known) (second.withKnown name known) where
  configuration := agree.configuration
  known := by simp
  file := agree.file
  accepts := agree.accepts

/-- Catalogs that agree on a database load it alike. -/
theorem load (agree : AgreeOn name first second) :
    SameOn name (first.load name) (second.load name) := by
  have stored : second.stored name = first.stored name :=
    stored_congr agree.configuration agree.file
  unfold Catalog.load
  rw [agree.known, stored]
  dsimp only
  split
  · exact ⟨agree.withKnown _, rfl⟩
  · split <;> exact ⟨agree.withKnown _, rfl⟩

/-- Catalogs that agree on a database save it alike. -/
theorem save (agree : AgreeOn name first second) (known : KnownDatabase) (database : Database) :
    SameOn name (first.save name known database) (second.save name known database) := by
  unfold Catalog.save
  rw [agree.configuration]
  split
  · dsimp only
    cases replaced : first.directory.replace? (Configuration.snapshotFile name)
        (Snapshot.ofTables database.tables).text with
    | none =>
        have refused := Directory.replace?_eq_none_iff.mp replaced
        rw [← agree.accepts, ← Directory.replace?_eq_none_iff] at refused
        rw [refused]
        exact ⟨agree.withKnown _, rfl⟩
    | some written =>
        cases replaced' : second.directory.replace? (Configuration.snapshotFile name)
            (Snapshot.ofTables database.tables).text with
        | none =>
            rw [Directory.replace?_eq_none_iff, agree.accepts, ← Directory.replace?_eq_none_iff,
              replaced] at replaced'
            cases replaced'
        | some written' =>
            refine ⟨⟨agree.configuration, (agree.withKnown _).known, ?_, ?_⟩, rfl⟩
            · have file := (Directory.read?_of_replace? replaced name).trans (if_pos rfl)
              have file' := (Directory.read?_of_replace? replaced' name).trans (if_pos rfl)
              exact file'.trans file.symm
            · exact (Directory.accepts_of_replace? replaced' _).trans
                (agree.accepts.trans (Directory.accepts_of_replace? replaced _).symm)
  · exact ⟨agree.withKnown _, rfl⟩

/-- Catalogs that agree on a database run a statement on it alike. -/
theorem run (agree : AgreeOn name first second) (now : DateTime) (statement : Statement) :
    SameOn name (first.run now name statement) (second.run now name statement) := by
  have loads := agree.load
  unfold Catalog.run
  generalize first.load name = loading, second.load name = loading' at loads
  obtain ⟨loaded, outcome⟩ := loading
  obtain ⟨loaded', outcome'⟩ := loading'
  obtain ⟨agree', same⟩ := loads
  cases same
  cases outcome with
  | error error => exact ⟨agree', rfl⟩
  | ok database =>
      dsimp only
      split
      · unfold change
        dsimp only
        rw [agree'.known]
        cases outcome : (database.execute now statement).2 with
        | ok _ => exact ⟨(agree'.save _ _).agree, rfl⟩
        | error _ => exact ⟨agree'.withKnown _, rfl⟩
      · exact ⟨agree', rfl⟩

/-- Catalogs that agree on a database run a text on it alike. -/
theorem execute (agree : AgreeOn name first second) (now : DateTime) (sql : String) :
    SameOn name (first.execute now name sql) (second.execute now name sql) := by
  unfold Catalog.execute
  split
  · exact ⟨agree, rfl⟩
  · split
    · exact ⟨agree, rfl⟩
    · exact agree.run now _

/-- Catalogs that agree on a database give the schemas of its tables alike. -/
theorem tableSchema (agree : AgreeOn name first second) (table : String) :
    SameOn name (first.tableSchema name table) (second.tableSchema name table) := by
  have loads := agree.load
  unfold Catalog.tableSchema
  split
  · exact ⟨agree, rfl⟩
  · generalize first.load name = loading, second.load name = loading' at loads
    obtain ⟨loaded, outcome⟩ := loading
    obtain ⟨loaded', outcome'⟩ := loading'
    obtain ⟨agree', same⟩ := loads
    cases same
    cases outcome <;> exact ⟨agree', rfl⟩

end AgreeOn

/-! ### Steps for other databases -/

section Elsewhere

variable {catalog : Catalog}

/-- Knowledge of one database does not concern another one. -/
theorem agreeOn_withKnown (elsewhere : name ≠ other) (known : KnownDatabase) :
    AgreeOn name catalog (catalog.withKnown other known) where
  configuration := rfl
  known := by rw [known_withKnown, if_neg elsewhere]
  file := rfl
  accepts := rfl

/-- Loading one database does not concern another one. -/
theorem agreeOn_load (catalog : Catalog) (elsewhere : name ≠ other) :
    AgreeOn name catalog (catalog.load other).1 := by
  unfold load
  dsimp only
  split
  · exact agreeOn_withKnown elsewhere _
  · split <;> exact agreeOn_withKnown elsewhere _

/-- Saving one database does not concern another one, since their files differ. -/
theorem agreeOn_save (catalog : Catalog) (elsewhere : name ≠ other) (known : KnownDatabase)
    (database : Database) : AgreeOn name catalog (catalog.save other known database).1 := by
  unfold save
  split
  · dsimp only
    split
    · rename_i directory replaced
      refine ⟨rfl, (agreeOn_withKnown elsewhere _).known, ?_, ?_⟩
      · exact (Directory.read?_of_replace? replaced name).trans (if_neg elsewhere)
      · exact Directory.accepts_of_replace? replaced _
    · exact agreeOn_withKnown elsewhere _
  · exact agreeOn_withKnown elsewhere _

/-- A statement on one database does not concern another one. -/
theorem agreeOn_run (elsewhere : name ≠ other) (now : DateTime) (statement : Statement) :
    AgreeOn name catalog (catalog.run now other statement).1 := by
  have loads := agreeOn_load catalog elsewhere
  unfold run
  generalize catalog.load other = loading at loads
  obtain ⟨loaded, outcome⟩ := loading
  cases outcome with
  | error error => exact loads
  | ok database =>
      dsimp only
      split
      · unfold change
        dsimp only
        cases (database.execute now statement).2 with
        | ok _ => exact loads.trans (agreeOn_save _ elsewhere _ _)
        | error _ => exact loads.trans (agreeOn_withKnown elsewhere _)
      · exact loads

/-- A text that is run on one database does not concern another one. -/
theorem agreeOn_execute (elsewhere : name ≠ other) (now : DateTime) (sql : String) :
    AgreeOn name catalog (catalog.execute now other sql).1 := by
  rcases execute_cases now catalog other sql with ⟨error, refused⟩ | ⟨statement, -, ran⟩
  · rw [refused]
    exact .refl name catalog
  · rw [ran]
    exact agreeOn_run elsewhere now statement

/-- Asking for a schema of one database does not concern another one. -/
theorem agreeOn_tableSchema (elsewhere : name ≠ other) (table : String) :
    AgreeOn name catalog (catalog.tableSchema other table).1 := by
  have loads := agreeOn_load catalog elsewhere
  unfold tableSchema
  split
  · exact .refl name catalog
  · generalize catalog.load other = loading at loads
    obtain ⟨loaded, outcome⟩ := loading
    cases outcome <;> exact loads

end Elsewhere

end Catalog

end Relational
