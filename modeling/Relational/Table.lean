import Relational.Index
import Relational.Schema

/-!
# Tables

A table holds rows under ascending identities that are never given out twice,
and keeps an index on its primary key and on every column that has a declared
index.  Every change of rows changes the indexes with them.
-/

namespace Relational

/-- A table with its rows and indexes. -/
structure Table where
  schema : Schema
  /-- The rows with their identities, in ascending order. -/
  rows : List (RowId × Row)
  nextId : RowId
  indexes : List Index
deriving DecidableEq

namespace Table

/-- The row of an identity. -/
def row? (table : Table) (id : RowId) : Option Row :=
  table.rows.lookup id

/-- A list of rows with one more at the place of its identity. -/
def insertOrdered (id : RowId) (row : Row) : List (RowId × Row) → List (RowId × Row)
  | [] => [(id, row)]
  | (other, kept) :: rest =>
    if id < other then (id, row) :: (other, kept) :: rest
    else if id = other then (id, row) :: rest
    else (other, kept) :: insertOrdered id row rest

/-- The index on a column. -/
def indexOn? (table : Table) (column : String) : Option Index :=
  table.indexes.find? fun index => index.column = column

/-- Declare an index under a new name and build it from the rows.  A column
with several declared indexes has one index. -/
def createIndex (table : Table) (declared : IndexDeclaration) : Except Error Table :=
  match table.schema.index? declared.name with
  | some _ => .error (.invalidQuery (.indexExists declared.name table.schema.name))
  | none => do
    let position ← table.schema.position declared.column
    let schema := { table.schema with indexes := table.schema.indexes ++ [declared] }
    match table.indexOn? declared.column with
    | some _ => return { table with schema := schema }
    | none =>
      let index := Index.build declared.column position table.rows
      return { table with schema := schema, indexes := table.indexes ++ [index] }

/-- Declare an index if that is possible. -/
def createIndexIfPossible (table : Table) (declared : IndexDeclaration) : Table :=
  match table.createIndex declared with
  | .ok extended => extended
  | .error _ => table

/-- The empty table of a schema. -/
def create (schema : Schema) : Table :=
  let bare : Table := {
    schema := { schema with indexes := [] }
    rows := []
    nextId := 1
    indexes := [Index.empty schema.keyName schema.keyPosition] }
  schema.indexes.foldl createIndexIfPossible bare

/-- A row's primary key has to be there and to differ from those of all other
rows. -/
def checkKey (table : Table) (row : Row) : Except Error Unit := do
  let key ← Row.cell row table.schema.keyPosition
  let column := table.schema.keyName
  if key.isNull then .error (.constraint (.nullPrimaryKey column))
  else if (table.indexOn? column).any fun index => index.contains key then
    .error (.duplicateKey table.schema.name column key)
  else .ok ()

/-- The table with a row under an identity that no row has. -/
def place (table : Table) (id : RowId) (row : Row) : Table :=
  { table with
    rows := insertOrdered id row table.rows
    indexes := table.indexes.map fun index => index.insertRow id row }

/-- Add a row under the next identity. -/
def insert (table : Table) (row : Row) : Except Error (Table × RowId) :=
  if row.length ≠ table.schema.columns.length then
    .error (.invalidQuery
      (.rowLength row.length table.schema.name table.schema.columns.length))
  else do
    table.checkKey row
    return ({ table.place table.nextId row with nextId := table.nextId + 1 }, table.nextId)

/-- The row of an identity, which has to exist. -/
def existing (table : Table) (id : RowId) : Except Error Row :=
  match table.row? id with
  | some row => .ok row
  | none => .error (.invalidQuery (.rowMissing id))

/-- Replace a row by one with the same primary key; the row before is
returned. -/
def update (table : Table) (id : RowId) (row : Row) : Except Error (Table × Row) := do
  let before ← table.existing id
  let oldKey ← Row.cell before table.schema.keyPosition
  let newKey ← Row.cell row table.schema.keyPosition
  if !oldKey.same newKey then
    .error (.constraint (.primaryKeyUpdate table.schema.keyName))
  else
    let changed := { table with
      rows := table.rows.map fun entry => if entry.1 = id then (id, row) else entry
      indexes := table.indexes.map fun index => index.replaceRow id before row }
    return (changed, before)

/-- Remove a row, which is returned. -/
def delete (table : Table) (id : RowId) : Except Error (Table × Row) := do
  let row ← table.existing id
  let remaining := { table with
    rows := table.rows.filter fun entry => entry.1 ≠ id
    indexes := table.indexes.map fun index => index.removeRow id row }
  return (remaining, row)

/-- Put a removed row back under its identity. -/
def restore (table : Table) (id : RowId) (row : Row) : Except Error Table :=
  match table.row? id with
  | some _ => .error (.invalidQuery (.rowExists id))
  | none => do
    table.checkKey row
    return { table.place id row with nextId := max table.nextId (id + 1) }

/-- The rows that an index finds for a value, in ascending order of identity,
if the column has an index. -/
def lookup? (table : Table) (column : String) (value : Value) : Option (List (RowId × Row)) :=
  (table.indexOn? column).map fun index =>
    (index.lookup value).filterMap fun id => (table.row? id).map fun row => (id, row)

/-- The statistics of the index on a column, if it has one. -/
def statistics? (table : Table) (column : String) : Option IndexStatistics :=
  (table.indexOn? column).map Index.statistics

end Table

end Relational
