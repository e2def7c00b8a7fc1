import Relational.Proofs.Catalog.Orderly

/-!
# What the files of a catalog hold

A catalog that keeps snapshots marks a database as unsaved exactly if the last
attempt to write its snapshot after a change failed, so that whatever is not
marked is level with its file.  This holds after any requests, whichever files
cannot be replaced while each of them is served.
-/

namespace Relational

namespace Catalog

/-! ### Requests -/

/-- A text that is run as a statement on a database at a moment. -/
structure Command where
  now : DateTime
  name : String
  sql : String

/-- What can be asked of a catalog. -/
inductive Request where
  | execute (command : Command)
  | flush
  | restart

/-- A request, with the files that cannot be replaced while it is served. -/
structure Occasion where
  refuses : String → Bool
  request : Request

/-- The catalog after a text was run. -/
def obey (catalog : Catalog) (command : Command) : Catalog :=
  (catalog.execute command.now command.name command.sql).1

/-- The catalog after a request. -/
def perform (catalog : Catalog) : Request → Catalog
  | .execute command => catalog.obey command
  | .flush => catalog.flushAll.1
  | .restart => catalog.restart

/-- The catalog after an occasion. -/
def serve (catalog : Catalog) (occasion : Occasion) : Catalog :=
  (catalog.refusing occasion.refuses).perform occasion.request

/-- The catalog after a series of occasions. -/
def serveAll (catalog : Catalog) (occasions : List Occasion) : Catalog :=
  occasions.foldl serve catalog

variable {catalog after : Catalog} {name : String} {database : Database}

/-! ### Statements -/

variable {now : DateTime} {statement : Statement} {outcome : Except Error Outcome}

/-- What running a statement comes to: nothing but a database may be loaded, or a
statement failed on the database, or it changed it and the snapshot was to be
written. -/
inductive Runs (now : DateTime) (catalog : Catalog) (name : String) (statement : Statement) :
    Catalog × Except Error Outcome → Prop
  | unloaded {loaded : Catalog} {error : Error}
      (loads : Loads catalog name (loaded, .error error)) :
      Runs now catalog name statement (loaded, .error error)
  | read {loaded : Catalog} {database : Database}
      (loads : Loads catalog name (loaded, .ok database)) (reads : statement.isMutation = false) :
      Runs now catalog name statement (loaded, database.query now statement)
  | failed {loaded : Catalog} {database : Database} {error : Error}
      (loads : Loads catalog name (loaded, .ok database)) (changes : statement.isMutation = true)
      (fails : (database.execute now statement).2 = .error error) :
      Runs now catalog name statement
        (loaded.withKnown name
          ((loaded.known name).withContent (database.execute now statement).1), .error error)
  | changed {loaded : Catalog} {database : Database} {outcome : Outcome} {known : KnownDatabase}
      {result : Catalog × Except Error Unit}
      (loads : Loads catalog name (loaded, .ok database)) (changes : statement.isMutation = true)
      (succeeds : (database.execute now statement).2 = .ok outcome)
      (content : known.content = some (database.execute now statement).1)
      (saves : Saves loaded name known (database.execute now statement).1 result) :
      Runs now catalog name statement (result.1, .ok outcome)

theorem Loads.configuration {result : Catalog × Except Error Database}
    (loads : Loads catalog name result) : result.1.configuration = catalog.configuration :=
  loads.concerns.configuration

/-- Running a statement comes to one of the ways in which it can run. -/
theorem run_runs (persistent : catalog.configuration.persistent = true) (now : DateTime)
    (name : String) (statement : Statement) :
    Runs now catalog name statement (catalog.run now name statement) := by
  have loads := load_loads catalog name
  unfold run
  split
  · rename_i loaded error loading
    rw [loading] at loads
    exact .unloaded loads
  · rename_i loaded database loading
    rw [loading] at loads
    split
    · rename_i changes
      have persistent' : loaded.configuration.persistent = true := by
        rw [← persistent]
        exact congrArg Configuration.persistent loads.configuration
      unfold change
      cases executed : database.execute now statement with
      | mk changed outcome =>
          have result : (database.execute now statement).1 = changed := by rw [executed]
          have reported : (database.execute now statement).2 = outcome := by rw [executed]
          cases outcome with
          | ok outcome =>
              subst result
              exact .changed loads changes reported rfl (save_saves persistent' name _ _)
          | error error =>
              subst result
              exact .failed loads changes reported
    · rename_i reads
      exact .read loads (Bool.not_eq_true _ ▸ reads)

/-- What a change of a database leaves.  Its file holds its snapshot, or if the
file could not be replaced, the database is unsaved and no file changed.  No
other file and no other mark changed. -/
structure Change (name : String) (catalog after : Catalog) : Prop where
  unsaved_iff : (after.known name).unsaved = true ↔
    catalog.directory.accepts (Configuration.snapshotFile name) = false
  written : catalog.directory.accepts (Configuration.snapshotFile name) = true →
    ∃ database, (after.known name).content = some database ∧
      after.directory.read? (Configuration.snapshotFile name) =
        some (Snapshot.ofTables database.tables).text
  refused : catalog.directory.accepts (Configuration.snapshotFile name) = false →
    after.directory = catalog.directory
  others : ∀ other ≠ name, (after.known other).unsaved = (catalog.known other).unsaved ∧
    after.directory.read? (Configuration.snapshotFile other) =
      catalog.directory.read? (Configuration.snapshotFile other)

namespace Runs

variable {result : Catalog × Except Error Outcome}

/-- Running a statement leaves a catalog in order, whether it succeeds or
fails. -/
theorem orderly (runs : Runs now catalog name statement result) (orderly : catalog.Orderly)
    (valid : statement.Valid) : result.1.Orderly := by
  cases runs with
  | unloaded loads => exact loads.orderly orderly
  | read loads _ => exact loads.orderly orderly
  | @failed loaded database error loads _ fails =>
      have orderly' : loaded.Orderly := loads.orderly orderly
      have content : (loaded.known name).content = some database := loads.content rfl
      have reachable := orderly'.reachable name database content
      have executed := reachable.executed now valid
      have same := reachable.sound.execute_indistinguishable fails
      refine orderly'.of_concerns (withKnown_concerns loaded name _) ?_ ?_ ?_ <;>
        rw [known_withKnown, if_pos rfl]
      · exact fun _ => rfl
      · rintro _ ⟨⟩
        exact executed
      · rintro _ ⟨⟩ saved
        have level : loaded.Level name database := orderly'.level name database content saved
        exact (level.of_indistinguishable same executed.sound.ordered
          reachable.sound.ordered).congr rfl rfl
  | @changed loaded database outcome known result loads _ _ content saves =>
      have orderly' : loaded.Orderly := loads.orderly orderly
      have reachable := orderly'.reachable name database (loads.content rfl)
      exact saves.orderly orderly' content (reachable.executed now valid)

/-- A statement that fails or only reads changes no file and no mark. -/
theorem quiet (runs : Runs now catalog name statement result)
    (harmless : (∃ error, result.2 = .error error) ∨ statement.isMutation = false) :
    Quiet catalog result.1 := by
  cases runs with
  | unloaded loads => exact loads.quiet
  | read loads _ => exact loads.quiet
  | failed loads _ _ => exact loads.quiet.trans (withKnown_quiet rfl)
  | changed _ changes _ _ _ =>
      rcases harmless with ⟨_, failed⟩ | reads
      · cases failed
      · rw [changes] at reads
        cases reads

/-- A statement that succeeds in changing a database comes to a change. -/
theorem change (runs : Runs now catalog name statement result)
    (changes : statement.isMutation = true) {outcome : Outcome}
    (succeeds : result.2 = .ok outcome) : Change name catalog result.1 := by
  cases runs with
  | unloaded _ => cases succeeds
  | read _ reads =>
      rw [changes] at reads
      cases reads
  | failed _ _ _ => cases succeeds
  | @changed loaded database _ known result loads _ _ content saves =>
      have directory : loaded.directory = catalog.directory := loads.quiet.directory
      have concerns := saves.concerns
      have files := saves.files
      rw [directory] at files
      refine ⟨?_, fun accepted => ?_, fun refused => ?_, fun other elsewhere => ⟨?_, ?_⟩⟩
      · rw [saves.unsaved_iff, directory]
      · rcases files with ⟨-, written⟩ | ⟨refused, -⟩
        · exact ⟨_, saves.content.trans content, written⟩
        · rw [refused] at accepted
          cases accepted
      · rcases files with ⟨accepted, -⟩ | ⟨-, unchanged⟩
        · rw [refused] at accepted
          cases accepted
        · exact unchanged
      · rw [concerns.known_of_ne elsewhere]
        exact loads.quiet.unsaved other
      · rw [concerns.files other elsewhere, directory]

end Runs

/-- A text is refused before it concerns a database, or it spells a statement
that is run. -/
theorem execute_cases (now : DateTime) (catalog : Catalog) (name sql : String) :
    (∃ error, catalog.execute now name sql = (catalog, .error error)) ∨
      ∃ statement, Statement.parse sql = .ok statement ∧
        catalog.execute now name sql = catalog.run now name statement := by
  unfold execute
  split
  · exact Or.inl ⟨_, rfl⟩
  · split
    · exact Or.inl ⟨_, rfl⟩
    · rename_i statement parsed
      exact Or.inr ⟨statement, parsed, rfl⟩

/-- Running a text leaves a catalog in order. -/
theorem Orderly.execute (orderly : catalog.Orderly) (now : DateTime) (name sql : String) :
    (catalog.execute now name sql).1.Orderly := by
  rcases execute_cases now catalog name sql with ⟨error, refused⟩ | ⟨statement, parsed, runs⟩
  · rw [refused]
    exact orderly
  · rw [runs]
    exact (run_runs orderly.persistent now name statement).orderly orderly
      (Statement.parse_valid parsed)

/-- A text that succeeds in changing a database comes to a change. -/
theorem Orderly.execute_change (orderly : catalog.Orderly) (now : DateTime) (name : String)
    {sql : String} {outcome : Outcome} (parsed : Statement.parse sql = .ok statement)
    (changes : statement.isMutation = true)
    (succeeds : (catalog.execute now name sql).2 = .ok outcome) :
    Change name catalog (catalog.execute now name sql).1 := by
  rcases execute_cases now catalog name sql with ⟨error, refused⟩ | ⟨statement', parsed', ran⟩
  · rw [refused] at succeeds
    cases succeeds
  · cases parsed.symm.trans parsed'
    rw [ran] at succeeds ⊢
    exact (run_runs orderly.persistent now name statement).change changes succeeds

/-- A text that fails or only reads changes no file and no mark. -/
theorem Orderly.execute_quiet (orderly : catalog.Orderly) (now : DateTime) (name sql : String)
    (harmless : (∃ error, (catalog.execute now name sql).2 = .error error) ∨
      ∃ statement, Statement.parse sql = .ok statement ∧ statement.isMutation = false) :
    Quiet catalog (catalog.execute now name sql).1 := by
  rcases execute_cases now catalog name sql with ⟨error, refused⟩ | ⟨statement, parsed, ran⟩
  · rw [refused]
    exact Quiet.refl _
  · rw [ran] at harmless ⊢
    refine (run_runs orderly.persistent now name statement).quiet (harmless.imp_right ?_)
    rintro ⟨statement', parsed', reads⟩
    cases parsed.symm.trans parsed'
    exact reads

/-! ### Flushing -/

namespace Flush

variable {flush : Flush}

/-- What looking at one entry does: as long as nothing failed, the entry is saved
and counted if it was unsaved. -/
structure Advances (flush : Flush) (entry : String × KnownDatabase) (next : Flush) : Prop where
  orderly : next.catalog.Orderly
  others : ∀ other ≠ entry.1, next.catalog.known other = flush.catalog.known other
  settled : next.failure = none → flush.failure = none ∧
    (next.catalog.known entry.1).unsaved = false ∧
    next.written = flush.written + [entry].countP fun entry => entry.2.unsaved

/-- A step of a flush writes its own entry if it is unsaved, and nothing else. -/
theorem next_advances {entry : String × KnownDatabase} (orderly : flush.catalog.Orderly)
    (known : flush.catalog.known entry.1 = entry.2) : flush.Advances entry (flush.next entry) := by
  cases unsaved : entry.2.unsaved with
  | false =>
      have same : flush.next entry = flush := by
        unfold next
        rw [unsaved]
      rw [same]
      refine ⟨orderly, fun _ _ => rfl, fun settled => ⟨settled, ?_, ?_⟩⟩
      · rw [known, unsaved]
      · rw [List.countP_singleton, unsaved]
        rfl
  | true =>
      have loaded := orderly.loaded entry.1 (by rw [known, unsaved])
      rw [known] at loaded
      obtain ⟨database, content⟩ := Option.isSome_iff_exists.mp loaded
      have saves := save_saves orderly.persistent entry.1 entry.2 database
      have reachable := orderly.reachable entry.1 database (known ▸ content)
      have orderly' := saves.orderly orderly content reachable
      have others := fun other (elsewhere : other ≠ entry.1) =>
        saves.concerns.known_of_ne elsewhere
      have counted : [entry].countP (fun entry => entry.2.unsaved) = 1 := by
        rw [List.countP_singleton, unsaved]
        rfl
      cases result : flush.catalog.save entry.1 entry.2 database with
      | mk saved outcome =>
          rw [result] at saves orderly' others
          cases outcome with
          | ok _ =>
              have next : flush.next entry = ⟨saved, flush.written + 1, flush.failure⟩ := by
                simp only [Flush.next, unsaved, content, result]
              rw [next]
              exact ⟨orderly', others, fun settled => ⟨settled, saves.saved_of_ok rfl,
                counted ▸ rfl⟩⟩
          | error error =>
              have next : flush.next entry = ⟨saved, flush.written, some error⟩ := by
                simp only [Flush.next, unsaved, content, result]
              rw [next]
              exact ⟨orderly', others, fun settled => nomatch settled⟩

/-- Looking at entries of different names, all of which are known as they were. -/
theorem foldl_next (flush : Flush) {entries : List (String × KnownDatabase)}
    (orderly : flush.catalog.Orderly)
    (differ : (entries.map Prod.fst).Nodup)
    (known : ∀ entry ∈ entries, flush.catalog.known entry.1 = entry.2) :
    (entries.foldl next flush).catalog.Orderly ∧
      (∀ other ∉ entries.map Prod.fst,
        (entries.foldl next flush).catalog.known other = flush.catalog.known other) ∧
      ((entries.foldl next flush).failure = none → flush.failure = none ∧
        (∀ entry ∈ entries, ((entries.foldl next flush).catalog.known entry.1).unsaved = false) ∧
        (entries.foldl next flush).written =
          flush.written + entries.countP fun entry => entry.2.unsaved) := by
  induction entries generalizing flush with
  | nil => exact ⟨orderly, fun _ _ => rfl, fun settled => ⟨settled, by simp, rfl⟩⟩
  | cons entry rest ih =>
      obtain ⟨absent, differ'⟩ := List.nodup_cons.mp differ
      have advances := next_advances orderly (known entry List.mem_cons_self)
      have known' : ∀ later ∈ rest, (flush.next entry).catalog.known later.1 = later.2 := by
        intro later member
        rw [advances.others]
        · exact known later (List.mem_cons_of_mem _ member)
        · rintro same
          exact absent (List.mem_map.mpr ⟨later, member, same⟩)
      obtain ⟨orderly', others, settled⟩ := ih (flush.next entry) advances.orderly differ' known'
      rw [List.foldl_cons]
      refine ⟨orderly', fun other elsewhere => ?_, fun succeeded => ?_⟩
      · rw [List.map_cons, List.mem_cons, not_or] at elsewhere
        rw [others other elsewhere.2, advances.others other elsewhere.1]
      · obtain ⟨succeeded', saved, written⟩ := settled succeeded
        obtain ⟨succeeded'', here, counted⟩ := advances.settled succeeded'
        refine ⟨succeeded'', fun later member => ?_, ?_⟩
        · rcases List.mem_cons.mp member with rfl | further
          · rw [others _ absent, here]
          · exact saved later further
        · rw [written, counted, Nat.add_assoc, ← List.countP_append]
          rfl

end Flush

variable {count : Nat}

/-- What flushing a catalog comes to. -/
theorem Orderly.flushAll (orderly : catalog.Orderly) :
    catalog.flushAll.1.Orderly ∧ ∀ count, catalog.flushAll.2 = .ok count →
      (∀ name, (catalog.flushAll.1.known name).unsaved = false) ∧
        count = catalog.databases.entries.countP fun entry => entry.2.unsaved := by
  have known : ∀ entry ∈ catalog.databases.entries, catalog.known entry.1 = entry.2 := by
    intro entry member
    rw [Catalog.known, orderly.ordered.get?_eq_some_iff.mpr member]
    rfl
  obtain ⟨orderly', others, settled⟩ := Flush.foldl_next ⟨catalog, 0, none⟩ orderly
    orderly.ordered.keys_nodup known
  refine ⟨orderly', fun count succeeds => ?_⟩
  unfold Catalog.flushAll at succeeds ⊢
  dsimp only at succeeds ⊢
  split at succeeds
  · cases succeeds
  · rename_i succeeded
    obtain ⟨-, saved, written⟩ := settled succeeded
    cases succeeds
    refine ⟨fun name => ?_, by rw [written, Nat.zero_add]⟩
    by_cases listed : name ∈ catalog.databases.entries.map Prod.fst
    · obtain ⟨entry, member, rfl⟩ := List.mem_map.mp listed
      exact saved entry member
    · have absent : catalog.databases.get? name = none := NameMap.get?_eq_none_iff.mpr listed
      have unseen : catalog.known name = KnownDatabase.unseen := by rw [Catalog.known, absent]; rfl
      rw [others name listed]
      exact congrArg KnownDatabase.unsaved unseen

/-! ### Runs -/

/-- What the marks and the files of a catalog say at a moment, and what the next
request makes of them.  A database in memory that is not marked as unsaved is
level with its file.  A text that fails or only reads leaves files and marks
alone; one that changes a database leaves it unsaved exactly if its file could
not be replaced.  A flush that succeeds leaves nothing unsaved and reports how
many databases were. -/
structure Bookkept (catalog : Catalog) : Prop where
  level : ∀ name database, (catalog.known name).content = some database →
    (catalog.known name).unsaved = false → catalog.Level name database
  quiet : ∀ refuses now name sql after outcome,
    (catalog.refusing refuses).execute now name sql = (after, outcome) →
    ((∃ error, outcome = .error error) ∨
      ∃ statement, Statement.parse sql = .ok statement ∧ statement.isMutation = false) →
    Quiet (catalog.refusing refuses) after
  changed : ∀ refuses now name sql after outcome statement,
    (catalog.refusing refuses).execute now name sql = (after, .ok outcome) →
    Statement.parse sql = .ok statement → statement.isMutation = true →
    Change name (catalog.refusing refuses) after
  flushed : ∀ refuses after count, (catalog.refusing refuses).flushAll = (after, .ok count) →
    (∀ name, (after.known name).unsaved = false) ∧
      count = catalog.databases.entries.countP fun entry => entry.2.unsaved

/-- A catalog in order has its marks right, now and after the next request. -/
theorem Orderly.bookkept (orderly : catalog.Orderly) : catalog.Bookkept where
  level := orderly.level
  quiet := by
    intro refuses now name sql after outcome result harmless
    have quiet := (orderly.refusing refuses).execute_quiet now name sql
    rw [result] at quiet
    exact quiet harmless
  changed := by
    intro refuses now name sql after outcome statement result parsed changes
    have change := (orderly.refusing refuses).execute_change now name parsed changes
      (congrArg Prod.snd result)
    rwa [result] at change
  flushed := by
    intro refuses after count result
    obtain ⟨-, settled⟩ := (orderly.refusing refuses).flushAll
    rw [result] at settled
    exact settled count rfl

/-- Every request leaves a catalog in order. -/
theorem Orderly.serve (orderly : catalog.Orderly) (occasion : Occasion) :
    (catalog.serve occasion).Orderly := by
  have orderly' := orderly.refusing occasion.refuses
  unfold Catalog.serve
  cases occasion.request with
  | execute command => exact orderly'.execute _ _ _
  | flush => exact orderly'.flushAll.1
  | restart => exact start_orderly orderly'.persistent _

/-- A catalog in order stays so, whatever is asked of it. -/
theorem Orderly.serveAll (orderly : catalog.Orderly) (occasions : List Occasion) :
    (catalog.serveAll occasions).Orderly := by
  induction occasions generalizing catalog with
  | nil => exact orderly
  | cons occasion rest ih => exact ih (orderly.serve occasion)

/-- Whatever is asked of a catalog that keeps snapshots, in whatever order, and
whichever writes fail, its marks tell which databases are ahead of their
files. -/
theorem serveAll_bookkept {configuration : Configuration}
    (persistent : configuration.persistent = true) (directory : Directory)
    (occasions : List Occasion) :
    ((start configuration directory).serveAll occasions).Bookkept :=
  ((start_orderly persistent directory).serveAll occasions).bookkept

/-- Requests of which some come while a file cannot be replaced: a table is made
in vain before a restart and made again, another database is saved, a flush and
an insertion fail. -/
def storm : List Occasion :=
  let refused : String → Bool := fun file => file = "plant.json"
  let ask (name sql : String) : Request := .execute ⟨Database.leapDay, name, sql⟩
  [⟨refused, ask "plant" "CREATE TABLE tank (id INT PRIMARY KEY)"⟩, ⟨refused, .restart⟩,
    ⟨refused, ask "mill" "CREATE TABLE wheel (id INT PRIMARY KEY)"⟩,
    ⟨refused, ask "plant" "CREATE TABLE tank (id INT PRIMARY KEY)"⟩, ⟨refused, .flush⟩,
    ⟨refused, ask "mill" "INSERT INTO wheel (id) VALUES ('one')"⟩]

/-- A refused file leaves its database unsaved beside one that is saved, and the marks of
both are right. -/
theorem storm_bookkept : Configuration.default.persistent = true ∧
    (((start Configuration.default .empty).serveAll storm).databases.entries.map fun entry =>
      (entry.1, entry.2.content.isSome, entry.2.unsaved)) =
        [("mill", true, false), ("plant", true, true)] ∧
    ((start Configuration.default .empty).serveAll storm).Bookkept :=
  ⟨rfl, by decide +kernel, serveAll_bookkept rfl .empty storm⟩

end Catalog

end Relational
