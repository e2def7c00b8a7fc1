import Relational.Shell
import Relational.Shell.Options

/-!
# What the shell tells of itself

Asked for help, the shell lists its options with their defaults and with the
environment variables that set them; asked for its version, it names it.
-/

namespace Relational

namespace ShellOption

/-- What an option is for. -/
def purpose : ShellOption → String
  | .dataDirectory => "Directory holding database snapshots"
  | .database => "Database to open"
  | .inMemory => "Keep everything in memory, never write snapshots"
  | .logLevel => "Log level"
  | .help => "Print help"
  | .version => "Print version"

/-- The environment variable that sets an option, if one does. -/
def environmentName? : ShellOption → Option String
  | .dataDirectory => some "PESADB_DATA_DIR"
  | .database => some "PESADB_DATABASE"
  | .logLevel => some "PESADB_LOG_LEVEL"
  | _ => none

/-- The value of an option, if it has one. -/
def value? (options : ShellOptions) : ShellOption → Option String
  | .dataDirectory => some options.dataDirectory
  | .database => some options.database
  | .logLevel => some options.logLevel
  | _ => none

/-- An option as it is listed: its letter, its name and its value. -/
def entry (option : ShellOption) : String :=
  match option.letter? with
  | some letter => "  -" ++ String.ofList [letter] ++ ", " ++ option.usage
  | none => "      " ++ option.usage

/-- The width of the list of options. -/
def entryWidth : Nat :=
  (all.map fun option => option.entry.length).foldl max 0

/-- An option with what it is for, and how it is set without an argument. -/
def explanation (environment : NameMap String) (option : ShellOption) : String :=
  let setting := option.environmentName?.map fun name =>
    " [env: " ++ name ++ "=" ++ (environment.get? name).getD "" ++ "]"
  let fallback := (option.value? (ShellOptions.ofEnvironment NameMap.empty)).map fun value =>
    " [default: " ++ value ++ "]"
  Grid.padded (entryWidth + 2) option.entry ++ option.purpose ++ setting.getD "" ++
    fallback.getD ""

end ShellOption

namespace ShellOptions

/-- The answer to a request for help. -/
def helpText (environment : NameMap String) : String :=
  "Interactive SQL shell for PesaDB" ++ OptionFault.usageLine [] ++ "\n\nOptions:\n" ++
    "\n".intercalate (ShellOption.all.map (ShellOption.explanation environment)) ++ "\n"

/-- The answer to a request for the version. -/
def versionText : String :=
  "pesadb-cli " ++ Shell.version ++ "\n"

end ShellOptions

end Relational
