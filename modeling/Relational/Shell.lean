import Relational.Catalog
import Relational.Shell.Grid

/-!
# Interactive shell

The shell reads lines.  A line that starts with a dot is a command; other lines
are collected until one ends with a semicolon, and are then run as one statement
on the shell's database.  What the shell prints is a list of texts for its two
outputs, so that a conversation is a function of the lines.
-/

namespace Relational

/-- A text that the shell prints. -/
inductive Printed where
  | output (text : String)
  | diagnostic (text : String)
deriving DecidableEq

namespace Printed

/-- A line of output. -/
def line (text : String) : Printed :=
  .output (text ++ "\n")

/-- A line of diagnostics. -/
def complaint (text : String) : Printed :=
  .diagnostic (text ++ "\n")

/-- All output among printed texts. -/
def outputs (printed : List Printed) : String :=
  String.join (printed.map fun
    | .output text => text
    | .diagnostic _ => "")

/-- All diagnostics among printed texts. -/
def diagnostics (printed : List Printed) : String :=
  String.join (printed.map fun
    | .output _ => ""
    | .diagnostic text => text)

end Printed

/-- A shell on one database of a catalog. -/
structure Shell where
  catalog : Catalog
  database : String
  /-- The lines of a statement that is not yet complete, a blank behind each. -/
  pending : String

/-- What a command line asks for. -/
inductive ShellCommand where
  | leave
  | help
  | tables
  | allSchemas
  | schema (table : String)
  | unknown
deriving DecidableEq

namespace ShellCommand

/-- The word in front of a table's name. -/
def schemaWord : List Char :=
  ['.', 's', 'c', 'h', 'e', 'm', 'a', ' ']

/-- The command that a line gives. -/
def ofLine (line : String) : ShellCommand :=
  match line with
  | ".exit" => .leave
  | ".quit" => .leave
  | ".help" => .help
  | ".tables" => .tables
  | ".schema" => .allSchemas
  | _ =>
    if schemaWord.isPrefixOf line.toList then
      .schema (Unicode.trim (String.ofList (line.toList.drop schemaWord.length)))
    else .unknown

end ShellCommand

/-- What came of one line: the shell afterwards, what it printed, and whether it
has ended. -/
structure Turn where
  shell : Shell
  printed : List Printed
  ended : Bool

namespace Shell

/-- The version that the shell tells. -/
def version : String :=
  "0.1.0"

/-- A shell at the start of a conversation. -/
def start (configuration : Configuration) (directory : Directory) (database : String) : Shell :=
  ⟨Catalog.start configuration directory, database, ""⟩

/-- Where the shell's database is kept. -/
def location (shell : Shell) : String :=
  if shell.catalog.configuration.persistent then
    shell.catalog.configuration.snapshotPath shell.database
  else "in memory"

/-- What the shell prints first. -/
def greeting (shell : Shell) : List Printed :=
  [.line ("PesaDB v" ++ version),
    .line ("Database: " ++ shell.database ++ " (" ++ shell.location ++ ")"),
    .line "Type '.help' for help, '.exit' to quit\n"]

/-- What the shell prints before it reads a line. -/
def prompt (shell : Shell) : Printed :=
  .output (if shell.pending = "" then "pesadb> " else "     -> ")

/-- The help text. -/
def helpText : String :=
  "
Commands:
  .help              Show this help
  .exit, .quit       Leave the shell
  .tables            List tables
  .schema            Show every table's columns
  .schema <table>    Show one table's columns

SQL examples:
  CREATE TABLE transactions (id STRING PRIMARY KEY, amount FLOAT, category STRING, date STRING);
  CREATE INDEX idx_category ON transactions (category);
  INSERT INTO transactions (id, amount, category, date) VALUES ('t1', 250.0, 'food', '2024-03-01T08:00:00');
  SELECT category, SUM(amount) AS total FROM transactions GROUP BY category ORDER BY total DESC;
  UPDATE transactions SET amount = 300 WHERE id = 't1';
  DELETE FROM transactions WHERE date < DATE_SUB(NOW(), INTERVAL 1 YEAR);
"

/-- What is printed for the result of a statement. -/
def report : Except Error Outcome → Printed
  | .ok (.rows columns rows) => .output (Grid.ofRows columns rows)
  | .ok (.changed count) => .line (naturalText count ++ " row(s) affected")
  | .ok (.defined message) => .line message
  | .error error => .complaint error.message

/-- The shell with its catalog after an operation. -/
def withCatalog (shell : Shell) (catalog : Catalog) : Shell :=
  { shell with catalog := catalog }

/-- The names of the tables, or what went wrong in finding them. -/
def tableNames (now : DateTime) (shell : Shell) : Shell × Except Error (List String) :=
  let (catalog, outcome) := shell.catalog.execute now shell.database "SHOW TABLES"
  (shell.withCatalog catalog, outcome.map fun
    | .rows _ rows => rows.filterMap fun row => row.head?.map Value.display
    | _ => [])

/-- Print the schema of a table. -/
def printSchema (shell : Shell) (table : String) : Shell × Printed :=
  let (catalog, schema) := shell.catalog.tableSchema shell.database table
  (shell.withCatalog catalog,
    match schema with
    | .ok schema => .output (Grid.ofSchema schema)
    | .error error => .complaint error.message)

/-- Print the schemas of tables, an empty line behind each. -/
def printSchemas (shell : Shell) : List String → Shell × List Printed
  | [] => (shell, [])
  | table :: rest =>
    let (after, printed) := shell.printSchema table
    let (final, others) := printSchemas after rest
    (final, printed :: .line "" :: others)

/-- What is printed for the names of all tables. -/
def tableList : Except Error (List String) → List Printed
  | .error error => [.complaint error.message, .line "No tables found"]
  | .ok [] => [.line "No tables found"]
  | .ok names => .line "Tables:" :: names.map fun name => .line ("  " ++ name)

/-- Carry out a command line. -/
def command (now : DateTime) (shell : Shell) (line : String) : Turn :=
  match ShellCommand.ofLine line with
  | .leave => ⟨shell, [], true⟩
  | .help => ⟨shell, [.line helpText], false⟩
  | .tables =>
    let (after, names) := shell.tableNames now
    ⟨after, tableList names, false⟩
  | .allSchemas =>
    match shell.tableNames now with
    | (after, .ok names) =>
      let (final, printed) := after.printSchemas names
      ⟨final, printed, false⟩
    | (after, .error error) => ⟨after, [.complaint error.message], false⟩
  | .schema table =>
    let (after, printed) := shell.printSchema table
    ⟨after, [printed], false⟩
  | .unknown =>
    ⟨shell, [.complaint ("Unknown command: " ++ line),
      .line "Type '.help' for available commands"], false⟩

/-- Run the statement that has been collected. -/
def submit (now : DateTime) (shell : Shell) : Turn :=
  let (catalog, outcome) :=
    shell.catalog.execute now shell.database (Unicode.trim shell.pending)
  ⟨{ shell with catalog := catalog, pending := "" }, [report outcome], false⟩

/-- Give up a statement that is not complete. -/
def discard (shell : Shell) : Shell × List Printed :=
  if shell.pending = "" then (shell, [])
  else
    ({ shell with pending := "" },
      [.complaint "Warning: incomplete SQL statement discarded"])

/-- Take a line. -/
def read (now : DateTime) (shell : Shell) (line : String) : Turn :=
  let input := Unicode.trim line
  if input.toList.head? = some '.' then
    let (ready, warning) := shell.discard
    let turn := ready.command now input
    { turn with printed := warning ++ turn.printed }
  else if input = "" then ⟨shell, [], false⟩
  else
    let collected := { shell with pending := shell.pending ++ input ++ " " }
    if input.toList.getLast? = some ';' then collected.submit now
    else ⟨collected, [], false⟩

/-- End the conversation: unsaved databases are written.  The result has the
exit code of the program. -/
def close (shell : Shell) : Shell × List Printed × Nat :=
  match shell.catalog.flushAll with
  | (catalog, .ok _) => (shell.withCatalog catalog, [], 0)
  | (catalog, .error error) =>
    (shell.withCatalog catalog, [.complaint ("Error: " ++ error.message)], 1)

/-- Take lines until they or the conversation end. -/
def converse (now : DateTime) (shell : Shell) : List String → Shell × List Printed
  | [] => (shell, [shell.prompt])
  | line :: rest =>
    let turn := shell.read now line
    let printed := shell.prompt :: turn.printed
    if turn.ended then (turn.shell, printed)
    else
      let (final, others) := converse now turn.shell rest
      (final, printed ++ others)

/-- The lines of a text.  The last one need not be ended. -/
def linesOf : List Char → List (List Char)
  | [] => []
  | c :: rest =>
    if c = '\n' then [] :: linesOf rest
    else
      match linesOf rest with
      | [] => [[c]]
      | first :: others => (c :: first) :: others

/-- What a whole conversation came to. -/
structure Transcript where
  shell : Shell
  printed : List Printed
  exitCode : Nat

/-- Hold a conversation from its greeting to its end. -/
def run (now : DateTime) (shell : Shell) (script : String) : Transcript :=
  let (talked, printed) :=
    shell.converse now ((linesOf script.toList).map String.ofList)
  let (closed, last, exitCode) := talked.close
  ⟨closed, shell.greeting ++ printed ++ last, exitCode⟩

end Shell

end Relational
