import Relational.Similarity

/-!
# Options on the command line

An option has a name, which two hyphens introduce, and some have a letter, which
one hyphen introduces.  Most options take a value.  What cannot be understood is
told with the options understood so far and, where a name is nearly right, with
the option that may be meant.
-/

namespace Relational

/-- The options of the shell. -/
inductive ShellOption where
  | dataDirectory
  | database
  | inMemory
  | logLevel
  | help
  | version
deriving DecidableEq

namespace ShellOption

/-- All options, in the order in which they are listed. -/
def all : List ShellOption :=
  [.dataDirectory, .database, .inMemory, .logLevel, .help, .version]

/-- The name of an option. -/
def name : ShellOption → String
  | .dataDirectory => "data-dir"
  | .database => "db"
  | .inMemory => "in-memory"
  | .logLevel => "log-level"
  | .help => "help"
  | .version => "version"

/-- The letter of an option, if it has one. -/
def letter? : ShellOption → Option Char
  | .help => some 'h'
  | .version => some 'V'
  | _ => none

/-- What the value of an option is called, if it takes one. -/
def valueName? : ShellOption → Option String
  | .dataDirectory => some "DATA_DIR"
  | .database => some "DB"
  | .logLevel => some "LOG_LEVEL"
  | _ => none

/-- The option with a name. -/
def ofName? (name : String) : Option ShellOption :=
  all.find? fun option => option.name = name

/-- The option with a letter. -/
def ofLetter? (letter : Char) : Option ShellOption :=
  all.find? fun option => option.letter? = some letter

/-- The option as it is written. -/
def spelling (option : ShellOption) : String :=
  "--" ++ option.name

/-- The option as it is written, with its value. -/
def usage (option : ShellOption) : String :=
  match option.valueName? with
  | some value => option.spelling ++ " <" ++ value ++ ">"
  | none => option.spelling

end ShellOption

/-! ### Arguments -/

/-- An argument by its form. -/
inductive Argument where
  /-- An option's name, with what an equals sign attaches to it. -/
  | named (name : String) (attached : Option String)
  /-- An option's letter, perhaps with more letters behind it. -/
  | lettered (letter : Char)
  /-- Two hyphens: all arguments behind them are plain. -/
  | divider
  /-- Any other text, among them the empty one and a single hyphen. -/
  | plain (text : String)
deriving DecidableEq

namespace Argument

/-- A text split at its first equals sign. -/
def splitEquals (text : List Char) : String × Option String :=
  let name := text.takeWhile fun c => c ≠ '='
  (String.ofList name, (text.drop name.length).tail?.map String.ofList)

/-- The form of an argument. -/
def ofText (text : String) : Argument :=
  match text.toList with
  | ['-', '-'] => .divider
  | '-' :: '-' :: rest =>
    let (name, attached) := splitEquals rest
    .named name attached
  | '-' :: letter :: _ => .lettered letter
  | _ => .plain text

end Argument

/-! ### Faults -/

/-- Why arguments cannot be understood. -/
inductive OptionFault where
  /-- An argument is none of the options given or known; one may be meant. -/
  | unexpected (argument : String) (given : List ShellOption) (meant : Option ShellOption)
  /-- An option lacks its value. -/
  | valueMissing (option : ShellOption)
  /-- A value is attached to an option that takes none. -/
  | valueUnexpected (value : String) (option : ShellOption) (given : List ShellOption)
  /-- An option is given twice. -/
  | repeated (option : ShellOption)
deriving DecidableEq

namespace OptionFault

/-- How the shell is started with some options, or with any. -/
def usageLine (options : List ShellOption) : String :=
  let shown := if options.isEmpty then ["[OPTIONS]"] else options.map ShellOption.usage
  "\n\nUsage: " ++ " ".intercalate ("pesadb-cli" :: shown)

/-- What went wrong. -/
def headline : OptionFault → String
  | .unexpected argument _ _ => "unexpected argument '" ++ argument ++ "' found"
  | .valueMissing option =>
    "a value is required for '" ++ option.usage ++ "' but none was supplied"
  | .valueUnexpected value option _ =>
    "unexpected value '" ++ value ++ "' for '" ++ option.usage ++
      "' found; no more were expected"
  | .repeated option =>
    "the argument '" ++ option.usage ++ "' cannot be used multiple times"

/-- The options given together with one more. -/
def together (given : List ShellOption) (option : ShellOption) : List ShellOption :=
  if given.contains option then given else given ++ [option]

/-- What may help to put it right. -/
def advice : OptionFault → String
  | .unexpected _ given (some meant) =>
    "\n\n  tip: a similar argument exists: '" ++ meant.spelling ++ "'" ++
      usageLine (together given meant)
  | .unexpected _ given none => usageLine given
  | .valueMissing _ => ""
  | .valueUnexpected _ option given => usageLine (together given option)
  | .repeated _ => usageLine []

/-- The wording of a fault. -/
def message (fault : OptionFault) : String :=
  "error: " ++ fault.headline ++ fault.advice ++ "\n\nFor more information, try '--help'.\n"

end OptionFault

end Relational
