import Relational.Catalog
import Relational.Proofs.Database.Atomicity
import Relational.Proofs.Snapshot.Reload

/-!
# Steps of a catalog

What loading a database, saving it and running a statement on it do to a
catalog: to the database concerned, to the others, and to the files.  A snapshot
is either replaced as a whole or left alone, and no other file is touched.
-/

namespace Relational

/-! ### Files of snapshots -/

/-- Different databases have different files. -/
theorem Configuration.snapshotFile_inj {name other : String} :
    snapshotFile name = snapshotFile other ↔ name = other :=
  String.append_left_inj ".json"

namespace Directory

/-- A new text is never staged in the place of a snapshot. -/
theorem stagingName_ne (name other : String) :
    stagingName (Configuration.snapshotFile name) ≠ Configuration.snapshotFile other := by
  intro same
  have last := congrArg (fun text => text.toList.getLast?) same
  simp [stagingName, Configuration.snapshotFile, String.toList_append] at last

variable {directory written : Directory} {name text : String}

/-- A snapshot that is replaced has the new text, and the others stay. -/
theorem read?_of_replace? (replaced :
      directory.replace? (Configuration.snapshotFile name) text = some written) (other : String) :
    written.read? (Configuration.snapshotFile other) =
      if other = name then some text else directory.read? (Configuration.snapshotFile other) := by
  unfold replace? at replaced
  split at replaced
  · cases replaced
    rw [read?, put, NameMap.get?_insert]
    by_cases here : other = name
    · rw [if_pos (congrArg _ here), if_pos here]
    · rw [if_neg fun same => here (Configuration.snapshotFile_inj.mp same), if_neg here, remove,
        NameMap.get?_erase, if_neg (stagingName_ne name other).symm]
      rfl
  · cases replaced

/-- A snapshot is not replaced exactly if the directory does not take its file. -/
theorem replace?_eq_none_iff :
    directory.replace? (Configuration.snapshotFile name) text = none ↔
      directory.accepts (Configuration.snapshotFile name) = false := by
  unfold replace?
  split <;> simp_all

/-- A file that is put there by hand has its text, and the others stay. -/
theorem read?_of_put? {path : String} (put : directory.put? path text = some written)
    (other : String) :
    written.read? other =
      if fileAt? path = some other then some text else directory.read? other := by
  unfold put? at put
  split at put
  · cases put
  · obtain ⟨file, reaches, rfl⟩ := Option.map_eq_some_iff.mp put
    rw [reaches, read?, Directory.put, NameMap.get?_insert]
    simp only [Option.some.injEq, eq_comm (a := file)]
    rfl

/-- Replacing a file does not change which files the directory takes. -/
theorem accepts_of_replace? {file : String} (replaced : directory.replace? file text = some written)
    (other : String) : written.accepts other = directory.accepts other := by
  unfold replace? at replaced
  split at replaced <;> cases replaced
  rfl

end Directory

/-- What only reads leaves a database as it is. -/
theorem Database.execute_eq_query {now : DateTime} {database : Database} {statement : Statement}
    (reads : statement.isMutation = false) :
    database.execute now statement = (database, database.query now statement) := by
  cases statement <;> first | rfl | cases reads

/-! ### Databases that nothing tells apart -/

/-- Nothing is found under a name exactly if it is not listed. -/
theorem NameMap.get?_eq_none_iff {α : Type} {map : NameMap α} {name : String} :
    map.get? name = none ↔ name ∉ map.names := by
  rw [get?, List.lookup_eq_none_iff, names, List.mem_map]
  constructor
  · rintro differ ⟨entry, member, rfl⟩
    simpa using differ entry member
  · intro absent entry member
    exact bne_iff_ne.mpr fun same => absent ⟨entry, member, same.symm⟩

theorem Table.Indistinguishable.trans {first second third : Table}
    (same : Indistinguishable first second) (same' : Indistinguishable second third) :
    Indistinguishable first third where
  schema := same.schema.trans same'.schema
  rows := same.rows.trans same'.rows
  nextId := same.nextId.trans same'.nextId
  lookup := fun column value => (same.lookup column value).trans (same'.lookup column value)
  statistics := fun column => (same.statistics column).trans (same'.statistics column)

namespace Database.Indistinguishable

variable {first second third : Database}

/-- A table of the one database has a counterpart in the other. -/
theorem exists_table (same : Indistinguishable first second) {name : String} {table : Table}
    (found : first.tables.get? name = some table) :
    ∃ table', second.tables.get? name = some table' ∧ Table.Indistinguishable table table' := by
  cases found' : second.tables.get? name with
  | none =>
      have absent := NameMap.get?_eq_none_iff.mp found'
      rw [← same.names, ← NameMap.get?_eq_none_iff, found] at absent
      cases absent
  | some table' => exact ⟨table', rfl, same.tables name table table' found found'⟩

theorem trans (same : Indistinguishable first second) (same' : Indistinguishable second third) :
    Indistinguishable first third := by
  refine ⟨same.name.trans same'.name, same.names.trans same'.names, ?_⟩
  intro name table table'' found found''
  obtain ⟨table', found', alike⟩ := same.exists_table found
  exact alike.trans (same'.tables name table' table'' found' found'')

/-- Databases that nothing tells apart have the same snapshot. -/
theorem ofTables_eq (same : Indistinguishable first second) (ordered : first.tables.Ordered)
    (ordered' : second.tables.Ordered) :
    Snapshot.ofTables first.tables = Snapshot.ofTables second.tables := by
  refine congrArg (fun entries => Snapshot.mk ⟨entries⟩)
    (Ascending.ext (ordered.map StoredTable.ofTable) (ordered'.map StoredTable.ofTable) ?_)
  intro name
  change (first.tables.map StoredTable.ofTable).get? name =
    (second.tables.map StoredTable.ofTable).get? name
  rw [NameMap.get?_map, NameMap.get?_map]
  cases found : first.tables.get? name with
  | none =>
      rw [NameMap.get?_eq_none_iff, same.names, ← NameMap.get?_eq_none_iff] at found
      rw [found]
  | some table =>
      obtain ⟨table', found', alike⟩ := same.exists_table found
      rw [found', Option.map_some, Option.map_some, StoredTable.ofTable, StoredTable.ofTable,
        alike.schema, alike.rows]

end Database.Indistinguishable

namespace Catalog

variable {catalog : Catalog} {name : String}

/-- New knowledge of a database replaces what was known of it, and of no other. -/
@[simp] theorem known_withKnown (catalog : Catalog) (name : String) (known : KnownDatabase)
    (other : String) :
    (catalog.withKnown name known).known other =
      if other = name then known else catalog.known other := by
  rw [Catalog.known, withKnown, NameMap.get?_insert]
  split <;> rfl

/-- A database is loaded from what the file of its snapshot holds. -/
theorem stored_congr {catalog' : Catalog}
    (configuration : catalog'.configuration = catalog.configuration)
    (file : catalog'.directory.read? (Configuration.snapshotFile name) =
      catalog.directory.read? (Configuration.snapshotFile name)) :
    catalog'.stored name = catalog.stored name := by
  rw [stored, stored, configuration, file]

/-- A database that can be loaded is reachable. -/
theorem stored_reachable {database : Database} (loads : catalog.stored name = .ok database) :
    database.Reachable := by
  unfold stored at loads
  split at loads
  · split at loads
    · obtain ⟨tables, accepted, rfl⟩ := map_eq_ok.mp loads
      exact .restored name accepted
    · cases loads
      exact .empty name
  · cases loads
    exact .empty name

/-- What is not the name of a database does not pass the check. -/
theorem checkName_of_not_isDatabaseName (refused : isDatabaseName name = false) :
    checkName name = .error (.invalidQuery (.invalidDatabaseName name)) :=
  if_neg (Bool.not_eq_true _ ▸ refused)

/-- A text for what is not the name of a database is refused, and nothing is created. -/
theorem execute_of_not_isDatabaseName (catalog : Catalog) (now : DateTime) (sql : String)
    (refused : isDatabaseName name = false) :
    catalog.execute now name sql =
      (catalog, .error (.invalidQuery (.invalidDatabaseName name))) := by
  rw [execute, checkName_of_not_isDatabaseName refused]

/-! ### Loading -/

/-- What asking for the content of a database comes to. -/
inductive Loads (catalog : Catalog) (name : String) : Catalog × Except Error Database → Prop
  | present {database : Database} (content : (catalog.known name).content = some database) :
      Loads catalog name (catalog.withKnown name (catalog.known name), .ok database)
  | read {database : Database} (content : (catalog.known name).content = none)
      (stored : catalog.stored name = .ok database) :
      Loads catalog name
        (catalog.withKnown name ⟨some database, .ready, (catalog.known name).unsaved⟩,
          .ok database)
  | refused {error : Error} (content : (catalog.known name).content = none)
      (stored : catalog.stored name = .error error) :
      Loads catalog name
        (catalog.withKnown name ⟨none, .unloaded, (catalog.known name).unsaved⟩, .error error)

/-- Asking for a database comes to one of the ways in which it loads. -/
theorem load_loads (catalog : Catalog) (name : String) :
    Loads catalog name (catalog.load name) := by
  unfold load
  dsimp only
  split
  · rename_i database content
    exact .present content
  · rename_i content
    split
    · rename_i database stored
      exact .read content stored
    · rename_i error stored
      have result := Loads.refused content stored
      rwa [← content] at result

/-! ### Saving -/

/-- What writing a snapshot comes to where snapshots are kept: either the file
is replaced and the database is level with it, or it is not, and the database is
ahead. -/
inductive Saves (catalog : Catalog) (name : String) (known : KnownDatabase) (database : Database) :
    Catalog × Except Error Unit → Prop
  | written {directory : Directory}
      (replaced : catalog.directory.replace? (Configuration.snapshotFile name)
        (Snapshot.ofTables database.tables).text = some directory) :
      Saves catalog name known database
        ({ catalog.withKnown name ⟨known.content, .ready, false⟩ with directory := directory },
          .ok ())
  | refused {error : Error}
      (refused : catalog.directory.accepts (Configuration.snapshotFile name) = false) :
      Saves catalog name known database
        (catalog.withKnown name ⟨known.content, .ready, true⟩, .error error)

/-- Writing a snapshot comes to one of the ways in which it is saved. -/
theorem save_saves (persistent : catalog.configuration.persistent = true) (name : String)
    (known : KnownDatabase) (database : Database) :
    Saves catalog name known database (catalog.save name known database) := by
  rw [save, if_pos persistent]
  dsimp only
  split
  · rename_i directory replaced
    exact .written replaced
  · rename_i refused
    exact .refused (Directory.replace?_eq_none_iff.mp refused)

/-- A step of a flush saves the database of an entry that is unsaved, or leaves the catalog
as it is. -/
theorem Flush.catalog_next (flush : Flush) (entry : String × KnownDatabase) :
    (flush.next entry).catalog = flush.catalog ∨ ∃ database, entry.2.unsaved = true ∧
      entry.2.content = some database ∧
        (flush.next entry).catalog = (flush.catalog.save entry.1 entry.2 database).1 := by
  unfold next
  split
  · rename_i database unsaved content
    refine .inr ⟨database, unsaved, content, ?_⟩
    split <;> rename_i result <;> rw [result]
  · exact .inl rfl

/-- A flush keeps what is kept whenever the database of an unsaved entry is saved. -/
theorem flushAll_induction (holds : Catalog → Prop) (begins : holds catalog)
    (kept : ∀ current, holds current → ∀ entry ∈ catalog.databases.entries,
      entry.2.unsaved = true → ∀ database, entry.2.content = some database →
        holds (current.save entry.1 entry.2 database).1) : holds catalog.flushAll.1 := by
  suffices each : ∀ (entries : List (String × KnownDatabase)) (flush : Flush),
      entries ⊆ catalog.databases.entries → holds flush.catalog →
        holds (entries.foldl Flush.next flush).catalog from
    each catalog.databases.entries ⟨catalog, 0, none⟩ (List.Subset.refl _) begins
  intro entries
  induction entries with
  | nil => exact fun _ _ held => held
  | cons entry rest ih =>
      intro flush among held
      obtain ⟨member, among'⟩ := List.cons_subset.mp among
      refine ih (flush.next entry) among' ?_
      rcases flush.catalog_next entry with same | ⟨database, unsaved, content, saved⟩
      · rwa [same]
      · rw [saved]
        exact kept flush.catalog held entry member unsaved database content

end Catalog

end Relational
