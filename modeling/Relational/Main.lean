import Relational.Shell
import Relational.Shell.Usage
import Std.Time.DateTime.Timestamp

/-!
# The shell as a program

This module connects the shell to standard input and output, to the clock and to
the files of the data directory.  Each line is one step of the shell on the
directory as it is at that moment.  If the file that a step writes cannot be
written, the step is taken again on a directory that refuses the file.
-/

namespace Relational

namespace Console

/-- The settings that environment variables give. -/
def environment : IO (NameMap String) := do
  let settings ← ["PESADB_DATA_DIR", "PESADB_DATABASE", "PESADB_LOG_LEVEL"].filterMapM
    fun name => do return (← IO.getEnv name).map fun value => (name, value)
  return NameMap.ofList settings

/-- The present moment in universal time. -/
def clock : IO DateTime := do
  let elapsed := (← Std.Time.Timestamp.now).toNanosecondsSinceUnixEpoch.val
  return (DateTime.ofUnixTime? elapsed).getD (DateTime.startOfDay ⟨1970, 1, 1⟩)

/-- The text of a file, if there is one; under a path that no file can have
there is none.  A file that holds no text is read as an empty one. -/
def readFile? (path : String) : IO (Option String) := do
  match ← (IO.FS.readFile path).toBaseIO with
  | .ok text => return some text
  | .error (.noFileOrDirectory ..) => return none
  | .error (.inappropriateType ..) => return none
  | .error (.invalidArgument ..) => return none
  | .error _ => return some ""

/-- The data directory as far as the shell's database needs it. -/
def lookAt (shell : Shell) : IO Directory := do
  if shell.catalog.configuration.persistent then
    let path := shell.catalog.configuration.snapshotPath shell.database
    match ← readFile? path with
    | some text =>
      return Directory.empty.put (Configuration.snapshotFile shell.database) text
    | none => return Directory.empty
  else return Directory.empty

/-- Replace the file at a path by way of a staged one, which is flushed first if the
configuration waits for the storage.  The result tells whether that worked. -/
def replaceFile (configuration : Configuration) (path text : String) : IO Bool := do
  try
    IO.FS.createDirAll configuration.dataDirectory
    IO.FS.withFile (Directory.stagingName path) .write fun staged => do
      staged.putStr text
      if configuration.durability.requiresSync then staged.flush
    IO.FS.rename (Directory.stagingName path) path
    return true
  catch _ => return false

/-- Take a step of the shell and carry over to the disk what it writes. -/
def step {α : Type} (shell : Shell) (act : Shell → Shell × α) : IO (Shell × α) := do
  let found ← lookAt shell
  let attempt := fun directory =>
    act (shell.withCatalog { shell.catalog with directory := directory })
  let (after, result) := attempt found
  let file := Configuration.snapshotFile shell.database
  match after.catalog.directory.read? file with
  | none => return (after, result)
  | some text =>
    if found.read? file = some text then return (after, result)
    else
      let configuration := shell.catalog.configuration
      let path := configuration.snapshotPath shell.database
      if ← replaceFile configuration path text then return (after, result)
      else return attempt { found with refuses := fun _ => true }

/-- Print texts to the two outputs. -/
def display (printed : List Printed) : IO Unit := do
  IO.print (Printed.outputs printed)
  IO.eprint (Printed.diagnostics printed)
  (← IO.getStdout).flush

/-- Take lines until the conversation or the input ends. -/
partial def converse (shell : Shell) : IO Shell := do
  display [shell.prompt]
  let line ← (← IO.getStdin).getLine
  if line.isEmpty then return shell
  let now ← clock
  let (after, turn) ← step shell fun ready =>
    let turn := ready.read now line
    (turn.shell, turn)
  display turn.printed
  if turn.ended then return after else converse after

/-- Hold a conversation with the shell and return the exit code. -/
def run (options : ShellOptions) : IO UInt32 := do
  let shell := Shell.start options.configuration Directory.empty options.database
  display shell.greeting
  let talked ← converse shell
  let (_, (printed, exitCode)) ← step talked Shell.close
  display printed
  return exitCode.toUInt32

end Console

end Relational

/-- Start the shell with command line arguments. -/
def main (arguments : List String) : IO UInt32 := do
  let environment ← Relational.Console.environment
  match (Relational.ShellOptions.ofEnvironment environment).withArguments arguments with
  | .ok (.converse options) => Relational.Console.run options
  | .ok .showHelp => do
    IO.print (Relational.ShellOptions.helpText environment)
    return 0
  | .ok .showVersion => do
    IO.print Relational.ShellOptions.versionText
    return 0
  | .error fault => do
    IO.eprint fault.message
    return 2
