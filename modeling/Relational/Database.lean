import Relational.NameMap
import Relational.Table

/-!
# Databases

A database is a name and the tables filed under their names.
-/

namespace Relational

/-- A named set of tables. -/
structure Database where
  name : String
  tables : NameMap Table
deriving DecidableEq

namespace Database

/-- The database without tables. -/
def empty (name : String) : Database :=
  ⟨name, NameMap.empty⟩

/-- The table of a name, which has to exist. -/
def table (database : Database) (name : String) : Except Error Table :=
  match database.tables.get? name with
  | some table => .ok table
  | none => .error (.tableNotFound name)

/-- The database in which a table is filed under a name. -/
def withTable (database : Database) (name : String) (table : Table) : Database :=
  { database with tables := database.tables.insert name table }

/-- Add the empty table of a schema under its name. -/
def createTable (database : Database) (schema : Schema) : Except Error Database :=
  if database.tables.contains schema.name then .error (.tableExists schema.name)
  else .ok (database.withTable schema.name (Table.create schema))

/-- Remove a table. -/
def dropTable (database : Database) (name : String) : Except Error Database :=
  if database.tables.contains name then
    .ok { database with tables := database.tables.erase name }
  else .error (.tableNotFound name)

/-- The number of rows of all tables. -/
def rowCount (database : Database) : Nat :=
  database.tables.values.foldl (fun count table => count + table.rows.length) 0

end Database

end Relational
