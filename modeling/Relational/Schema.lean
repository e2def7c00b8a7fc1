import Relational.Error

/-!
# Table schemas

A schema names a table's columns in order, exactly one of them the primary
key, and the indexes declared on them.  Columns are fixed when the table is
created; only index declarations are added later.
-/

namespace Relational

/-- The declared, never enforced, target of a foreign key. -/
structure Reference where
  table : String
  column : String
deriving DecidableEq

/-- A column's declaration. -/
structure Column where
  name : String
  type : ColumnType
  primaryKey : Bool
  references : Option Reference
deriving DecidableEq

/-- A named index on one column. -/
structure IndexDeclaration where
  name : String
  column : String
deriving DecidableEq

/-- What a table declares about itself. -/
structure Schema where
  name : String
  columns : List Column
  indexes : List IndexDeclaration
deriving DecidableEq

namespace Schema

/-- The first name that occurs a second time. -/
def firstRepeated? (seen : List String) : List String → Option String
  | [] => none
  | name :: rest => if name ∈ seen then some name else firstRepeated? (name :: seen) rest

/-- The names of the columns, in order. -/
def columnNames (schema : Schema) : List String :=
  schema.columns.map Column.name

/-- A schema without indexes.  It has at least one column, its column names
differ, and exactly one column is the primary key. -/
def create (name : String) (columns : List Column) : Except Error Schema :=
  if columns.isEmpty then .error (.invalidQuery (.noColumns name))
  else
    match firstRepeated? [] (columns.map Column.name) with
    | some column => .error (.invalidQuery (.duplicateColumn column name))
    | none =>
      match columns.countP Column.primaryKey with
      | 0 => .error (.syntaxFault (.missingPrimaryKey name))
      | 1 => .ok ⟨name, columns, []⟩
      | _ => .error (.syntaxFault (.compositePrimaryKey name))

/-- The position of a named column. -/
def position? (schema : Schema) (column : String) : Option Nat :=
  schema.columns.findIdx? fun declared => declared.name = column

/-- The position of a named column, which has to exist. -/
def position (schema : Schema) (column : String) : Except Error Nat :=
  match schema.position? column with
  | some position => .ok position
  | none => .error (.columnNotFound schema.name column)

/-- The declaration of a named column. -/
def column? (schema : Schema) (column : String) : Option Column :=
  (schema.position? column).bind fun position => schema.columns[position]?

/-- The declaration at a position that comes from this schema. -/
def columnAt (schema : Schema) (position : Nat) : Except Error Column :=
  match schema.columns[position]? with
  | some column => .ok column
  | none => .error (.invalidQuery (.positionOutOfRange position))

/-- The position of the primary key. -/
def keyPosition (schema : Schema) : Nat :=
  schema.columns.findIdx Column.primaryKey

/-- The name of the primary key column. -/
def keyName (schema : Schema) : String :=
  match schema.columns[schema.keyPosition]? with
  | some column => column.name
  | none => ""

/-- The index declared under a name. -/
def index? (schema : Schema) (name : String) : Option IndexDeclaration :=
  schema.indexes.find? fun declared => declared.name = name

end Schema

namespace Row

/-- The cell at a position that comes from the row's schema. -/
def cell (row : Row) (position : Nat) : Except Error Value :=
  match row[position]? with
  | some value => .ok value
  | none => .error (.invalidQuery (.positionOutOfRange position))

end Row

end Relational
