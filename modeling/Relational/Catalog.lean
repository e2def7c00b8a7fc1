import Relational.Configuration
import Relational.Database.Execution
import Relational.Directory
import Relational.Grammar.Statement
import Relational.Snapshot.Document

/-!
# Catalogs

A catalog serves statements on databases that are named with each statement.  A
database is loaded from its snapshot when it is first needed and stays in memory
from then on.  Each statement that changes a database writes its snapshot; if
that fails the statement still stands, and the database stays marked as unsaved
until a later write succeeds.
-/

namespace Relational

/-- Where a database is in its life. -/
inductive Lifecycle where
  /-- Known by name, nothing read yet. -/
  | unloaded
  /-- Its snapshot is being read. -/
  | loading
  /-- In memory. -/
  | ready
  /-- Its snapshot is being written. -/
  | persisting
deriving DecidableEq

namespace Lifecycle

/-- The name of a stage. -/
def name : Lifecycle → String
  | .unloaded => "Unloaded"
  | .loading => "Loading"
  | .ready => "Ready"
  | .persisting => "Persisting"

end Lifecycle

/-- What a catalog knows of a database. -/
structure KnownDatabase where
  content : Option Database
  lifecycle : Lifecycle
  /-- The content is ahead of the snapshot last written. -/
  unsaved : Bool
deriving DecidableEq

namespace KnownDatabase

/-- A database of which only the name is known. -/
def unseen : KnownDatabase :=
  ⟨none, .unloaded, false⟩

/-- The database at another stage of its life. -/
def enter (known : KnownDatabase) (lifecycle : Lifecycle) : KnownDatabase :=
  { known with lifecycle := lifecycle }

/-- The database with content in memory. -/
def withContent (known : KnownDatabase) (database : Database) : KnownDatabase :=
  { known with content := some database }

/-- The database marked as ahead of its snapshot, or as level with it. -/
def markUnsaved (known : KnownDatabase) (unsaved : Bool) : KnownDatabase :=
  { known with unsaved := unsaved }

end KnownDatabase

/-- The databases named so far, with the directory of their snapshots. -/
structure Catalog where
  configuration : Configuration
  directory : Directory
  databases : NameMap KnownDatabase

namespace Catalog

/-- A catalog that has not been asked for anything. -/
def start (configuration : Configuration) (directory : Directory) : Catalog :=
  ⟨configuration, directory, NameMap.empty⟩

/-- A new catalog over the same directory.  What was in memory only is lost. -/
def restart (catalog : Catalog) : Catalog :=
  start catalog.configuration catalog.directory

/-- Names of databases are ASCII letters and digits, underscores and hyphens. -/
def isDatabaseName (name : String) : Bool :=
  !name.toList.isEmpty && name.toList.all fun c => c.isAlphanum || c == '_' || c == '-'

/-- A name has to be that of a database. -/
def checkName (name : String) : Except Error Unit :=
  if isDatabaseName name then .ok () else .error (.invalidQuery (.invalidDatabaseName name))

/-- What is known of a database. -/
def known (catalog : Catalog) (name : String) : KnownDatabase :=
  (catalog.databases.get? name).getD KnownDatabase.unseen

/-- The catalog with other knowledge of a database. -/
def withKnown (catalog : Catalog) (name : String) (known : KnownDatabase) : Catalog :=
  { catalog with databases := catalog.databases.insert name known }

/-- The names of all databases asked for so far, in order. -/
def names (catalog : Catalog) : List String :=
  catalog.databases.names

/-- Where a database is in its life, if it has been asked for. -/
def lifecycle? (catalog : Catalog) (name : String) : Option Lifecycle :=
  (catalog.databases.get? name).map KnownDatabase.lifecycle

/-! ### Loading -/

/-- A database as its snapshot describes it, or an empty one if there is no
snapshot. -/
def stored (catalog : Catalog) (name : String) : Except Error Database :=
  if catalog.configuration.persistent then
    match catalog.directory.read? (Configuration.snapshotFile name) with
    | some text =>
      (Snapshot.read (catalog.configuration.snapshotPath name) text).map fun tables =>
        ⟨name, tables⟩
    | none => .ok (Database.empty name)
  else .ok (Database.empty name)

/-- The content of a database, loaded if need be.  A snapshot that cannot be
read leaves it unloaded. -/
def load (catalog : Catalog) (name : String) : Catalog × Except Error Database :=
  let known := catalog.known name
  match known.content with
  | some database => (catalog.withKnown name known, .ok database)
  | none =>
    let loading := known.enter .loading
    match catalog.stored name with
    | .ok database =>
      (catalog.withKnown name ((loading.withContent database).enter .ready), .ok database)
    | .error error => (catalog.withKnown name (loading.enter .unloaded), .error error)

/-! ### Saving -/

/-- Write the snapshot of a database that is in memory. -/
def save (catalog : Catalog) (name : String) (known : KnownDatabase) (database : Database) :
    Catalog × Except Error Unit :=
  if catalog.configuration.persistent then
    let writing := known.enter .persisting
    let text := (Snapshot.ofTables database.tables).text
    match catalog.directory.replace? (Configuration.snapshotFile name) text with
    | some directory =>
      let saved := (writing.enter .ready).markUnsaved false
      ({ catalog.withKnown name saved with directory := directory }, .ok ())
    | none =>
      let kept := (writing.enter .ready).markUnsaved true
      (catalog.withKnown name kept, .error .snapshotNotWritten)
  else (catalog.withKnown name (known.markUnsaved false), .ok ())

/-- What writing all unsaved databases came to. -/
structure Flush where
  catalog : Catalog
  written : Nat
  failure : Option Error

namespace Flush

/-- Write one database if it is unsaved. -/
def next (flush : Flush) (entry : String × KnownDatabase) : Flush :=
  match entry.2.unsaved, entry.2.content with
  | true, some database =>
    match flush.catalog.save entry.1 entry.2 database with
    | (catalog, .ok ()) => ⟨catalog, flush.written + 1, flush.failure⟩
    | (catalog, .error error) => ⟨catalog, flush.written, some error⟩
  | _, _ => flush

end Flush

/-- Write the snapshots of all unsaved databases.  The result is their number,
or an error if any of them could not be written. -/
def flushAll (catalog : Catalog) : Catalog × Except Error Nat :=
  let flush := catalog.databases.entries.foldl Flush.next ⟨catalog, 0, none⟩
  (flush.catalog,
    match flush.failure with
    | some error => .error error
    | none => .ok flush.written)

/-! ### Statements -/

/-- Run a statement that changes a database in memory.  If it succeeds the
snapshot is written; a failure to write does not take the change back. -/
def change (now : DateTime) (catalog : Catalog) (name : String) (database : Database)
    (statement : Statement) : Catalog × Except Error Outcome :=
  let (changed, outcome) := database.execute now statement
  let known := (catalog.known name).withContent changed
  match outcome with
  | .ok _ => ((catalog.save name (known.markUnsaved true) changed).1, outcome)
  | .error _ => (catalog.withKnown name known, outcome)

/-- Run a statement on a database. -/
def run (now : DateTime) (catalog : Catalog) (name : String) (statement : Statement) :
    Catalog × Except Error Outcome :=
  match catalog.load name with
  | (loaded, .error error) => (loaded, .error error)
  | (loaded, .ok database) =>
    if statement.isMutation then loaded.change now name database statement
    else (loaded, database.query now statement)

/-- Run the statement that a text spells on a database. -/
def execute (now : DateTime) (catalog : Catalog) (name sql : String) :
    Catalog × Except Error Outcome :=
  match checkName name with
  | .error error => (catalog, .error error)
  | .ok () =>
    match Statement.parse sql with
    | .error error => (catalog, .error error)
    | .ok statement => catalog.run now name statement

/-- The schema of a table of a database. -/
def tableSchema (catalog : Catalog) (name table : String) : Catalog × Except Error Schema :=
  match checkName name with
  | .error error => (catalog, .error error)
  | .ok () =>
    match catalog.load name with
    | (loaded, .error error) => (loaded, .error error)
    | (loaded, .ok database) => (loaded, (database.table table).map Table.schema)

end Catalog

end Relational
