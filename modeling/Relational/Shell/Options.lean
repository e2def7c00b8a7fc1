import Relational.Configuration
import Relational.Shell.Option

/-!
# Options of the shell

The shell is started with options, some of which can also be given by
environment variables.  Arguments are read from left to right, and the first one
that cannot be understood settles the outcome, as does a request for help or for
the version.
-/

namespace Relational

/-- How the shell is started. -/
structure ShellOptions where
  dataDirectory : String
  database : String
  inMemory : Bool
  logLevel : String
deriving DecidableEq

/-- What the arguments ask for. -/
inductive Invocation where
  | converse (options : ShellOptions)
  | showHelp
  | showVersion
deriving DecidableEq

namespace ShellOptions

/-- The options before any argument is read. -/
def ofEnvironment (environment : NameMap String) : ShellOptions where
  dataDirectory := (environment.get? "PESADB_DATA_DIR").getD Configuration.default.dataDirectory
  database := (environment.get? "PESADB_DATABASE").getD "pesa"
  inMemory := false
  logLevel := (environment.get? "PESADB_LOG_LEVEL").getD "warn"

/-- The configuration that the options ask for. -/
def configuration (options : ShellOptions) : Configuration :=
  if options.inMemory then Configuration.inMemory
  else Configuration.inDirectory options.dataDirectory

/-- The options with the value of one of them. -/
def withValue (options : ShellOptions) (value : String) : ShellOption → ShellOptions
  | .dataDirectory => { options with dataDirectory := value }
  | .database => { options with database := value }
  | .logLevel => { options with logLevel := value }
  | _ => options

end ShellOptions

/-! ### Reading arguments -/

/-- What an argument says on its own. -/
inductive Instruction where
  | set (option : ShellOption) (attached : Option String)
  | divide
  | text (value : String)
deriving DecidableEq

namespace Instruction

/-- What an argument says when some options have been given before it. -/
def ofArgument (given : List ShellOption) : Argument → Except OptionFault Instruction
  | .named name attached =>
    match ShellOption.ofName? name, attached with
    | none, _ =>
      .error (.unexpected ("--" ++ name) given
        (Similarity.closest? ShellOption.name ShellOption.all name))
    | some option, none => .ok (.set option none)
    | some option, some value =>
      if option.valueName?.isSome then .ok (.set option (some value))
      else .error (.valueUnexpected value option given)
  | .lettered letter =>
    match ShellOption.ofLetter? letter with
    | some option => .ok (.set option none)
    | none => .error (.unexpected (String.ofList ['-', letter]) [] none)
  | .divider => .ok .divide
  | .plain value => .ok (.text value)

end Instruction

namespace ShellOptions

/-- An option can be given once. -/
def checkFirst (given : List ShellOption) (option : ShellOption) : Except OptionFault Unit :=
  if given.contains option then .error (.repeated option) else .ok ()

/-- The end of the options, at which no option may still want its value.  Plain
arguments behind it have no meaning to the shell. -/
def finish (wanting : Option ShellOption) (options : ShellOptions) :
    List String → Except OptionFault Invocation
  | text :: _ => .error (.unexpected text [] none)
  | [] =>
    match wanting with
    | some option => .error (.valueMissing option)
    | none => .ok (.converse options)

/-- Read arguments after some options have been given, of which the last may
still want its value. -/
def readArguments (given : List ShellOption) (wanting : Option ShellOption)
    (options : ShellOptions) : List String → Except OptionFault Invocation
  | [] => finish wanting options []
  | argument :: rest => do
    match wanting, ← Instruction.ofArgument given (Argument.ofText argument) with
    | _, .divide => finish wanting options rest
    | some option, .text value =>
      checkFirst given option
      readArguments (given ++ [option]) none (options.withValue value option) rest
    | some option, .set _ _ => throw (.valueMissing option)
    | none, .text value => throw (.unexpected value [] none)
    | none, .set .help _ => return .showHelp
    | none, .set .version _ => return .showVersion
    | none, .set .inMemory _ =>
      checkFirst given .inMemory
      readArguments (given ++ [.inMemory]) none { options with inMemory := true } rest
    | none, .set option (some value) =>
      checkFirst given option
      readArguments (given ++ [option]) none (options.withValue value option) rest
    | none, .set option none => readArguments given (some option) options rest

/-- What the shell is asked for by arguments that follow its environment. -/
def withArguments (options : ShellOptions) (arguments : List String) :
    Except OptionFault Invocation :=
  options.readArguments [] none arguments

end ShellOptions

end Relational
