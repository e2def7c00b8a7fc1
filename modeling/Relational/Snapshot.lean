import Relational.NameMap
import Relational.Table
import Relational.Value.Coercion

/-!
# Snapshots

A snapshot is what is kept of a database: for each table its columns, its
declared indexes and its rows, each row with its cells under the names of their
columns.  Row identities and the content of indexes are not kept; building the
tables again numbers the rows from one and fills the indexes.
-/

namespace Relational

/-- What is kept of one table. -/
structure StoredTable where
  columns : List Column
  indexes : List IndexDeclaration
  rows : List (NameMap Value)
deriving DecidableEq

/-- What is kept of a database. -/
structure Snapshot where
  tables : NameMap StoredTable
deriving DecidableEq

namespace StoredTable

/-- What is kept of a table. -/
def ofTable (table : Table) : StoredTable where
  columns := table.schema.columns
  indexes := table.schema.indexes
  rows := table.rows.map fun entry =>
    NameMap.ofList (table.schema.columnNames.zip entry.2)

/-- The cells of a row in the order of the columns.  A column that is missing is
null, and every cell is coerced to its column's type. -/
def cells (stored : NameMap Value) : List Column → Except Error Row
  | [] => .ok []
  | column :: rest => do
    let cell ← ((stored.get? column.name).getD .null).coerce column.type column.name
    let others ← cells stored rest
    return cell :: others

/-- A row of a table from its kept cells, none of which may be under another
name than a column's. -/
def row (schema : Schema) (stored : NameMap Value) : Except Error Row := do
  let row ← cells stored schema.columns
  match stored.names.find? fun name => name ∉ schema.columnNames with
  | some unknown => .error (.columnNotFound schema.name unknown)
  | none => return row

/-- A table with further rows. -/
def insertRows (table : Table) : List (NameMap Value) → Except Error Table
  | [] => .ok table
  | stored :: rest => do
    let row ← row table.schema stored
    let (extended, _) ← table.insert row
    insertRows extended rest

/-- A table with further indexes. -/
def declareIndexes (table : Table) : List IndexDeclaration → Except Error Table
  | [] => .ok table
  | declared :: rest => do
    let extended ← table.createIndex declared
    declareIndexes extended rest

/-- Build the table of a name again. -/
def toTable (name : String) (stored : StoredTable) : Except Error Table := do
  let schema ← Schema.create name stored.columns
  let table ← insertRows (Table.create schema) stored.rows
  declareIndexes table stored.indexes

end StoredTable

namespace Snapshot

/-- What is kept of a set of tables. -/
def ofTables (tables : NameMap Table) : Snapshot :=
  ⟨tables.map StoredTable.ofTable⟩

/-- Build tables again, in the order of their names. -/
def restoreEntries (path : String) :
    List (String × StoredTable) → Except Error (List (String × Table))
  | [] => .ok []
  | (name, stored) :: rest =>
    match stored.toTable name with
    | .error cause => .error (.snapshotTableInvalid name path cause)
    | .ok table => do
      let others ← restoreEntries path rest
      return (name, table) :: others

/-- Build the tables again.  An error tells which table of the file at the path
it comes from. -/
def toTables (path : String) (snapshot : Snapshot) : Except Error (NameMap Table) := do
  let tables ← restoreEntries path snapshot.tables.entries
  return ⟨tables⟩

end Snapshot

end Relational
