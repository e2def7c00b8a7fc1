import Relational.Json.Printer
import Relational.Json.Reader
import Relational.Json.Record
import Relational.Snapshot
import Relational.Value.Json

/-!
# The document of a snapshot

A snapshot is written as an indented JSON document: the tables as members in the
order of their names, and each row as an object with its cells in the order of
their names.

Columns, indexes, tables and the document itself are records, so they may be
read from arrays too, and what has a default may be left out.  Tables and rows
are read from objects only; a name given twice there stands for the last value.
-/

namespace Relational

namespace ColumnType

/-- A column type as JSON. -/
def toJson (type : ColumnType) : Json :=
  Json.ofString type.sqlName

/-- A column type is read from its name, or from an object whose one member has
its name and is null. -/
def ofJson? : Json → Option ColumnType
  | .string (some name) => ofSqlName? name
  | .object [(some name, .null)] => ofSqlName? name
  | _ => none

end ColumnType

namespace Reference

/-- The target of a foreign key as JSON. -/
def toJson (target : Reference) : Json :=
  Json.ofMembers [("table", Json.ofString target.table), ("column", Json.ofString target.column)]

/-- The target of a foreign key that a record describes. -/
def ofJson? (json : Json) : Option Reference := do
  match ← json.fields? ["table", "column"] with
  | [some table, some column] => return ⟨← table.text?, ← column.text?⟩
  | _ => none

end Reference

namespace Column

/-- A column's declaration as JSON. -/
def toJson (column : Column) : Json :=
  Json.ofMembers
    [("name", Json.ofString column.name),
      ("type", column.type.toJson),
      ("primary_key", .boolean column.primaryKey),
      ("references", (column.references.map Reference.toJson).getD .null)]

/-- The column declaration that a record describes.  Without further word a
column is not the primary key and refers to nothing. -/
def ofJson? (json : Json) : Option Column := do
  match ← json.fields? ["name", "type", "primary_key", "references"] with
  | [some name, some type, primaryKey, target] =>
    return {
      name := ← name.text?
      type := ← ColumnType.ofJson? type
      primaryKey := ← Json.orDefault false Json.boolean? primaryKey
      references := ← Json.orDefault none (Json.orNull Reference.ofJson?) target }
  | _ => none

end Column

namespace IndexDeclaration

/-- An index declaration as JSON. -/
def toJson (declared : IndexDeclaration) : Json :=
  Json.ofMembers
    [("name", Json.ofString declared.name), ("column", Json.ofString declared.column)]

/-- The index declaration that a record describes. -/
def ofJson? (json : Json) : Option IndexDeclaration := do
  match ← json.fields? ["name", "column"] with
  | [some name, some column] => return ⟨← name.text?, ← column.text?⟩
  | _ => none

end IndexDeclaration

namespace StoredTable

/-- The cells of a row as JSON. -/
def rowToJson (stored : NameMap Value) : Json :=
  Json.ofMembers (stored.map Value.toJson).entries

/-- A list of things that an array holds. -/
def listOfJson? {α : Type} (decode : Json → Option α) (json : Json) : Option (List α) := do
  (← json.items?).mapM decode

/-- The values under the names of an object. -/
def mapOfJson? {α : Type} (decode : Json → Option α) (json : Json) : Option (NameMap α) := do
  let entries ← (← json.entries?).mapM fun entry =>
    (decode entry.2).map fun value => (entry.1, value)
  return NameMap.ofList entries

/-- A kept table as JSON. -/
def toJson (stored : StoredTable) : Json :=
  Json.ofMembers
    [("columns", .array (stored.columns.map Column.toJson)),
      ("indexes", .array (stored.indexes.map IndexDeclaration.toJson)),
      ("rows", .array (stored.rows.map rowToJson))]

/-- The kept table that a record describes.  Without further word it has no
indexes and no rows. -/
def ofJson? (json : Json) : Option StoredTable := do
  match ← json.fields? ["columns", "indexes", "rows"] with
  | [some columns, indexes, rows] =>
    return {
      columns := ← listOfJson? Column.ofJson? columns
      indexes := ← Json.orDefault [] (listOfJson? IndexDeclaration.ofJson?) indexes
      rows := ← Json.orDefault [] (listOfJson? (mapOfJson? Value.ofJson?)) rows }
  | _ => none

end StoredTable

namespace Snapshot

/-- A snapshot as JSON. -/
def toJson (snapshot : Snapshot) : Json :=
  Json.ofMembers [("tables", Json.ofMembers (snapshot.tables.map StoredTable.toJson).entries)]

/-- The snapshot that a record describes.  Without further word it has no
tables. -/
def ofJson? (json : Json) : Option Snapshot := do
  match ← json.fields? ["tables"] with
  | [tables] =>
    return ⟨← Json.orDefault NameMap.empty (StoredTable.mapOfJson? StoredTable.ofJson?) tables⟩
  | _ => none

/-- The document of a snapshot. -/
def text (snapshot : Snapshot) : String :=
  snapshot.toJson.pretty

/-- The snapshot that a document describes. -/
def ofText? (text : String) : Option Snapshot :=
  (Json.ofText? text).bind ofJson?

/-- The tables of the document in the file at a path. -/
def read (path text : String) : Except Error (NameMap Table) :=
  match ofText? text with
  | some snapshot => snapshot.toTables path
  | none => .error (.snapshotCorrupt path)

end Snapshot

end Relational
