import Relational.Json.Number
import Relational.Json.Printer
import Relational.NameMap
import Relational.Value.Coercion

/-!
# Configuration

Where snapshots are kept and whether they are kept at all.  Defaults can be
overridden by environment variables.
-/

namespace Relational

/-- How hard a snapshot is pushed to stable storage before it counts as
written. -/
inductive Durability where
  | synced
  | unsynced
deriving DecidableEq

namespace Durability

/-- Whether a write waits for the storage. -/
def requiresSync (durability : Durability) : Bool :=
  durability = .synced

/-- What a level of durability means. -/
def description : Durability → String
  | .synced => "fsync every snapshot"
  | .unsynced => "no fsync (unsafe)"

/-- The name of a level in a configuration document. -/
def name : Durability → String
  | .synced => "Synchronous"
  | .unsynced => "NoSync"

end Durability

/-- How the engine keeps its databases. -/
structure Configuration where
  dataDirectory : String
  persistent : Bool
  durability : Durability
  /-- How many compiled patterns are kept for reuse. -/
  patternCapacity : Nat
deriving DecidableEq

namespace Configuration

/-- Snapshots below the working directory, pushed to stable storage. -/
def default : Configuration :=
  ⟨"./data", true, .synced, 128⟩

/-- Snapshots in a given directory. -/
def inDirectory (dataDirectory : String) : Configuration :=
  { default with dataDirectory := dataDirectory }

/-- No snapshots. -/
def inMemory : Configuration :=
  { default with persistent := false }

/-- The truth value of a setting. -/
def flag? (setting : String) : Option Bool :=
  let word := lowerAscii (Unicode.trim setting)
  if word ∈ ["1", "true", "yes", "on"] then some true
  else if word ∈ ["0", "false", "no", "off"] then some false
  else none

/-- The data directory of a setting, which must not be blank. -/
def directory? (setting : String) : Option String :=
  if Unicode.trim setting = "" then none else some setting

/-- The durability of a setting; only the unsafe level has to be asked for. -/
def durability? (setting : String) : Option Durability :=
  if lowerAscii setting ∈ ["nosync", "none"] then some .unsynced else none

/-- The defaults as overridden by environment variables.  A setting that says
nothing is ignored. -/
def ofEnvironment (environment : NameMap String) : Configuration :=
  { default with
    dataDirectory :=
      ((environment.get? "PESADB_DATA_DIR").bind directory?).getD default.dataDirectory
    persistent := ((environment.get? "PESADB_PERSIST").bind flag?).getD default.persistent
    durability :=
      ((environment.get? "PESADB_DURABILITY").bind durability?).getD default.durability }

/-- The name of a database's snapshot in its directory. -/
def snapshotFile (database : String) : String :=
  database ++ ".json"

/-- A name below a directory.  A name that starts at the root stands for
itself. -/
def pathBelow (directory name : String) : String :=
  if name.toList.head? = some '/' then name
  else if directory = "" ∨ directory.toList.getLast? = some '/' then directory ++ name
  else directory ++ "/" ++ name

/-- The path of a database's snapshot. -/
def snapshotPath (configuration : Configuration) (database : String) : String :=
  pathBelow configuration.dataDirectory (snapshotFile database)

/-- The document of a configuration. -/
def toJson (configuration : Configuration) : Json :=
  Json.ofMembers
    [("data_dir", Json.ofString configuration.dataDirectory),
      ("persist", .boolean configuration.persistent),
      ("durability", Json.ofString configuration.durability.name),
      ("like_cache_capacity", .number (Numeral.ofInt configuration.patternCapacity))]

end Configuration

/-- How much is logged. -/
inductive LogLevel where
  | off
  | error
  | warn
  | info
  | debug
  | trace
deriving DecidableEq

namespace LogLevel

/-- The name of a level. -/
def name : LogLevel → String
  | .off => "OFF"
  | .error => "ERROR"
  | .warn => "WARN"
  | .info => "INFO"
  | .debug => "DEBUG"
  | .trace => "TRACE"

/-- The level of a name in any mix of cases; other texts ask for the level of
informative messages. -/
def ofText (text : String) : LogLevel :=
  match lowerAscii text with
  | "off" => .off
  | "error" => .error
  | "warn" => .warn
  | "debug" => .debug
  | "trace" => .trace
  | _ => .info

end LogLevel

end Relational
