import Relational.Proofs.Catalog.Agreement

/-!
# Databases do not interfere

The databases of a catalog share nothing but its configuration.  Steps for other
databases can be left out of a session, and the database answers as before.

The files of different databases are different, and all of them are directly in
the data directory, because no name of a database has a slash in it.
-/

namespace Relational

/-! ### Paths of snapshots -/

namespace Configuration

open Catalog (isDatabaseName)
open Directory (stagingName stagingName_ne)

/-- What a path into a directory starts with. -/
def pathInto (directory : String) : String :=
  if directory = "" ∨ directory.toList.getLast? = some '/' then directory else directory ++ "/"

/-- A path to a file of a directory itself: neither to a directory further down or
up, nor to the directory. -/
def DirectlyIn (directory path : String) : Prop :=
  ∃ file, path = pathInto directory ++ file ∧ file ∉ ["", ".", ".."] ∧ '/' ∉ file.toList

/-- A name without slashes is appended to its directory. -/
theorem pathBelow_eq {directory file : String} (plain : '/' ∉ file.toList) :
    pathBelow directory file = pathInto directory ++ file := by
  have relative : file.toList.head? ≠ some '/' := fun first => plain (List.mem_of_head? first)
  rw [pathBelow, if_neg relative, pathInto]
  split <;> rfl

variable {name other : String} {configuration : Configuration}

theorem slash_notMem (accepted : isDatabaseName name = true) : '/' ∉ name.toList := by
  rw [isDatabaseName, Bool.and_eq_true, List.all_eq_true] at accepted
  intro member
  exact absurd (accepted.2 _ member) (by decide)

theorem slash_notMem_append {file suffix : String} (plain : '/' ∉ file.toList)
    (plain' : '/' ∉ suffix.toList) : '/' ∉ (file ++ suffix).toList := by
  rw [String.toList_append, List.mem_append, not_or]
  exact ⟨plain, plain'⟩

/-- The file of a database holds no slash. -/
theorem snapshotFile_plain (accepted : isDatabaseName name = true) :
    '/' ∉ (snapshotFile name).toList :=
  slash_notMem_append (slash_notMem accepted) (by decide)

theorem snapshotPath_eq (accepted : isDatabaseName name = true) :
    configuration.snapshotPath name = pathInto configuration.dataDirectory ++ snapshotFile name :=
  pathBelow_eq (snapshotFile_plain accepted)

/-- A text is staged beside its snapshot. -/
theorem stagingName_snapshotPath (accepted : isDatabaseName name = true) :
    stagingName (configuration.snapshotPath name) =
      pathInto configuration.dataDirectory ++ stagingName (snapshotFile name) := by
  rw [snapshotPath_eq accepted, stagingName, stagingName, String.append_assoc]

/-- A file whose name is long enough to be no directory lies directly in its directory. -/
theorem directlyIn_of_suffix {directory file suffix : String} (plain : '/' ∉ file.toList)
    (plain' : '/' ∉ suffix.toList) (long : 2 < suffix.length) :
    DirectlyIn directory (pathInto directory ++ (file ++ suffix)) := by
  refine ⟨_, rfl, fun special => ?_, slash_notMem_append plain plain'⟩
  have short : ∀ text ∈ ["", ".", ".."], String.length text ≤ 2 := by decide
  have bounded := short _ special
  rw [String.length_append] at bounded
  omega

/-- The snapshot of a database and the text that is to become it are files of the
data directory. -/
theorem snapshotPath_directlyIn (accepted : isDatabaseName name = true) :
    DirectlyIn configuration.dataDirectory (configuration.snapshotPath name) ∧
      DirectlyIn configuration.dataDirectory (stagingName (configuration.snapshotPath name)) := by
  rw [stagingName_snapshotPath accepted, snapshotPath_eq accepted]
  exact ⟨directlyIn_of_suffix (slash_notMem accepted) (by decide) (by decide),
    directlyIn_of_suffix (snapshotFile_plain accepted) (by decide) (by decide)⟩

/-- The four paths of two databases are different. -/
theorem snapshotPaths_nodup (accepted : isDatabaseName name = true)
    (accepted' : isDatabaseName other = true) (differ : name ≠ other) :
    [configuration.snapshotPath name, stagingName (configuration.snapshotPath name),
      configuration.snapshotPath other, stagingName (configuration.snapshotPath other)].Nodup := by
  have files : [snapshotFile name, stagingName (snapshotFile name), snapshotFile other,
      stagingName (snapshotFile other)].Nodup := by
    have apart : snapshotFile name ≠ snapshotFile other := fun same =>
      differ (snapshotFile_inj.mp same)
    have staged : stagingName (snapshotFile name) ≠ stagingName (snapshotFile other) :=
      fun same => apart ((String.append_left_inj ".tmp").mp same)
    have beside (name other : String) := (stagingName_ne name other).symm
    simp [apart, staged, beside, stagingName_ne]
  have injective : Function.Injective (pathInto configuration.dataDirectory ++ ·) :=
    fun _ _ same => (String.append_right_inj _).mp same
  rw [stagingName_snapshotPath accepted, stagingName_snapshotPath accepted',
    snapshotPath_eq accepted, snapshotPath_eq accepted']
  exact files.map injective

end Configuration

namespace Catalog

variable {first second : Catalog} {name : String}

/-! ### Sessions -/

/-- A step of a session. -/
inductive Visit where
  | statement (name sql : String)
  | schema (name table : String)
  | restart

/-- What a step of a session is answered with. -/
inductive Reply where
  | outcome (result : Except Error Outcome)
  | schema (result : Except Error Schema)
  | restarted

/-- The database that a step names. -/
def Visit.name? : Visit → Option String
  | .statement name _ => some name
  | .schema name _ => some name
  | .restart => none

/-- The catalog after a step, and the reply. -/
def visit (now : DateTime) (catalog : Catalog) : Visit → Catalog × Reply
  | .statement name sql =>
    let (after, result) := catalog.execute now name sql
    (after, .outcome result)
  | .schema name table =>
    let (after, result) := catalog.tableSchema name table
    (after, .schema result)
  | .restart => (catalog.restart, .restarted)

/-- The catalog after a session, and its steps with their replies. -/
def visitAll (now : DateTime) (catalog : Catalog) : List Visit → Catalog × List (Visit × Reply)
  | [] => (catalog, [])
  | visit :: rest =>
    let answered := catalog.visit now visit
    let later := answered.1.visitAll now rest
    (later.1, (visit, answered.2) :: later.2)

/-- The steps of a session that do not name another database. -/
def without (name : String) (session : List Visit) : List Visit :=
  session.filter fun visit => visit.name?.all (· = name)

/-- What a database is answered in a session. -/
def repliesTo (name : String) (replies : List (Visit × Reply)) : List (Visit × Reply) :=
  replies.filter fun entry => entry.1.name? = some name

/-- A step counts towards the replies of the database that it names. -/
theorem repliesTo_cons (name : String) (entry : Visit × Reply) (replies : List (Visit × Reply)) :
    repliesTo name (entry :: replies) =
      if entry.1.name? = some name then entry :: repliesTo name replies
      else repliesTo name replies := by
  simp [repliesTo, List.filter_cons]

/-- A step that does not name another database comes to the same. -/
theorem AgreeOn.visit (agree : AgreeOn name first second) (now : DateTime) {visit : Visit}
    (concerns : visit.name?.all (· = name) = true) :
    SameOn name (first.visit now visit) (second.visit now visit) := by
  cases visit with
  | statement named sql =>
      obtain rfl : named = name := by simpa [Visit.name?] using concerns
      have same := agree.execute now sql
      exact ⟨same.agree, congrArg Reply.outcome same.result⟩
  | schema named table =>
      obtain rfl : named = name := by simpa [Visit.name?] using concerns
      have same := agree.tableSchema table
      exact ⟨same.agree, congrArg Reply.schema same.result⟩
  | restart => exact ⟨⟨agree.configuration, rfl, agree.file, agree.accepts⟩, rfl⟩

/-- A step that names another database leaves this one alone. -/
theorem agreeOn_visit {catalog : Catalog} (now : DateTime) {visit : Visit}
    (elsewhere : ¬ visit.name?.all (· = name) = true) :
    AgreeOn name catalog (catalog.visit now visit).1 := by
  cases visit with
  | statement other sql =>
      have differs : name ≠ other := by simpa [Visit.name?, eq_comm] using elsewhere
      exact agreeOn_execute differs now sql
  | schema other table =>
      have differs : name ≠ other := by simpa [Visit.name?, eq_comm] using elsewhere
      exact agreeOn_tableSchema differs table
  | restart => simp [Visit.name?] at elsewhere

/-- Leaving out the steps of a session that name other databases. -/
theorem AgreeOn.visitAll (agree : AgreeOn name first second) (now : DateTime)
    (session : List Visit) :
    AgreeOn name (first.visitAll now session).1 (second.visitAll now (without name session)).1 ∧
      repliesTo name (second.visitAll now (without name session)).2 =
        repliesTo name (first.visitAll now session).2 := by
  induction session generalizing first second with
  | nil => exact ⟨agree, rfl⟩
  | cons visit rest ih =>
      by_cases concerns : visit.name?.all (· = name) = true
      · have same := agree.visit now concerns
        obtain ⟨agree', replies⟩ := ih same.agree
        have kept : without name (visit :: rest) = visit :: without name rest :=
          List.filter_cons_of_pos concerns
        rw [kept]
        refine ⟨agree', ?_⟩
        simp only [Catalog.visitAll, repliesTo_cons, same.result, replies]
      · obtain ⟨agree', replies⟩ := ih ((agreeOn_visit now concerns).symm.trans agree)
        have dropped : without name (visit :: rest) = without name rest :=
          List.filter_cons_of_neg concerns
        have unnamed : visit.name? ≠ some name := fun named => concerns (by simp [named])
        rw [dropped]
        refine ⟨agree', ?_⟩
        simp only [Catalog.visitAll, repliesTo_cons, unnamed, if_false, replies]

/-- What is not the name of a database is refused, and nothing is created. -/
theorem refused_of_not_isDatabaseName (catalog : Catalog) (now : DateTime) (sql table : String)
    (refused : isDatabaseName name = false) :
    catalog.execute now name sql = (catalog, .error (.invalidQuery (.invalidDatabaseName name))) ∧
      catalog.tableSchema name table =
        (catalog, .error (.invalidQuery (.invalidDatabaseName name))) := by
  refine ⟨execute_of_not_isDatabaseName catalog now sql refused, ?_⟩
  rw [tableSchema, checkName_of_not_isDatabaseName refused]

/-- Without the steps that name other databases a database is answered the same,
and its snapshot is the same in the end.  The files of a database are in the data
directory and are not those of another database; what would not have such files is
no name of a database, and is refused. -/
theorem databases_isolated (configuration : Configuration) (directory : Directory)
    (now : DateTime) (session : List Visit) (name : String) :
    (repliesTo name ((start configuration directory).visitAll now (without name session)).2 =
        repliesTo name ((start configuration directory).visitAll now session).2 ∧
      ((start configuration directory).visitAll now (without name session)).1.directory.read?
          (Configuration.snapshotFile name) =
        ((start configuration directory).visitAll now session).1.directory.read?
          (Configuration.snapshotFile name)) ∧
    (isDatabaseName name = true →
      Configuration.DirectlyIn configuration.dataDirectory (configuration.snapshotPath name) ∧
      Configuration.DirectlyIn configuration.dataDirectory
        (Directory.stagingName (configuration.snapshotPath name)) ∧
      ∀ other, isDatabaseName other = true → name ≠ other →
        [configuration.snapshotPath name, Directory.stagingName (configuration.snapshotPath name),
          configuration.snapshotPath other,
          Directory.stagingName (configuration.snapshotPath other)].Nodup) ∧
    (isDatabaseName name = false → ∀ catalog sql table,
      Catalog.execute now catalog name sql =
          (catalog, .error (.invalidQuery (.invalidDatabaseName name))) ∧
        catalog.tableSchema name table =
          (catalog, .error (.invalidQuery (.invalidDatabaseName name)))) := by
  obtain ⟨agree, replies⟩ :=
    (AgreeOn.refl name (start configuration directory)).visitAll now session
  refine ⟨⟨replies, agree.file⟩, fun accepted => ?_, fun refused catalog sql table => ?_⟩
  · obtain ⟨inside, inside'⟩ := Configuration.snapshotPath_directlyIn accepted
    exact ⟨inside, inside', fun other accepted' differ =>
      Configuration.snapshotPaths_nodup accepted accepted' differ⟩
  · exact refused_of_not_isDatabaseName catalog now sql table refused

/-- A session in which two databases are used in turns. -/
def sharing : List Visit :=
  [.statement "plant" "CREATE TABLE tank (id INT PRIMARY KEY)",
    .statement "mill" "CREATE TABLE tank (id INT PRIMARY KEY)",
    .statement "plant" "INSERT INTO tank (id) VALUES (1)", .restart, .schema "mill" "tank",
    .statement "plant" "SELECT * FROM tank", .statement "../mill" "DROP TABLE tank"]

/-- Two databases used in turns are each answered as if alone, and a name that climbs out of
the directory is refused. -/
theorem sharing_isolated :
    isDatabaseName "plant" = true ∧ isDatabaseName "mill" = true ∧
      isDatabaseName "../mill" = false ∧
      without "plant" sharing = [sharing[0], sharing[2], sharing[3], sharing[5]] ∧
      repliesTo "plant" ((start .default .empty).visitAll Database.leapDay
          (without "plant" sharing)).2 =
        repliesTo "plant" ((start .default .empty).visitAll Database.leapDay sharing).2 ∧
      [Configuration.default.snapshotPath "plant",
        Directory.stagingName (Configuration.default.snapshotPath "plant"),
        Configuration.default.snapshotPath "mill",
        Directory.stagingName (Configuration.default.snapshotPath "mill")].Nodup ∧
      (start .default .empty).execute Database.leapDay "../mill" "DROP TABLE tank" =
        (start .default .empty, .error (.invalidQuery (.invalidDatabaseName "../mill"))) := by
  have plant : isDatabaseName "plant" = true := by decide
  have mill : isDatabaseName "mill" = true := by decide
  have outside : isDatabaseName "../mill" = false := by decide
  obtain ⟨⟨replies, -⟩, paths, -⟩ :=
    databases_isolated .default .empty Database.leapDay sharing "plant"
  obtain ⟨-, -, refused⟩ := databases_isolated .default .empty Database.leapDay sharing "../mill"
  exact ⟨plant, mill, outside, by rfl, replies, (paths plant).2.2 "mill" mill (by decide),
    (refused outside _ _ "tank").1⟩

end Catalog

end Relational
