import Relational.Expr
import Relational.Schema

/-!
# Statements

The statements of the query language after parsing: four that read or change
rows, three that change what tables and indexes there are, and one that lists
the tables.
-/

namespace Relational

/-- One item of a select list. -/
inductive SelectItem where
  /-- All columns of the table. -/
  | all
  | expression (expression : Expr) (label : Option String)

/-- One sort criterion: a column or a label of the result. -/
structure SortItem where
  column : String
  ascending : Bool
deriving DecidableEq

/-- A query over one table. -/
structure Select where
  items : List SelectItem
  table : String
  condition : Option Expr
  groupBy : Option (List String)
  having : Option Expr
  orderBy : Option (List SortItem)
  limit : Option Nat
  offset : Option Nat

/-- The insertion of one row, its columns named. -/
structure Insert where
  table : String
  columns : List String
  values : List Expr

/-- New contents for some columns of the rows that meet a condition. -/
structure Update where
  table : String
  assignments : List (String × Expr)
  condition : Option Expr

/-- The removal of the rows that meet a condition. -/
structure Delete where
  table : String
  condition : Option Expr

/-- The declaration of an index on an existing table. -/
structure CreateIndex where
  index : String
  table : String
  column : String

/-- A statement of the query language. -/
inductive Statement where
  | select (select : Select)
  | insert (insert : Insert)
  | update (update : Update)
  | delete (delete : Delete)
  | createTable (schema : Schema)
  | createIndex (declaration : CreateIndex)
  | dropTable (table : String)
  | showTables

namespace Statement

/-- The words that a statement of this form starts with. -/
def name : Statement → String
  | .select _ => "SELECT"
  | .insert _ => "INSERT"
  | .update _ => "UPDATE"
  | .delete _ => "DELETE"
  | .createTable _ => "CREATE TABLE"
  | .createIndex _ => "CREATE INDEX"
  | .dropTable _ => "DROP TABLE"
  | .showTables => "SHOW TABLES"

/-- Whether a statement may change the database. -/
def isMutation : Statement → Bool
  | .select _ => false
  | .showTables => false
  | _ => true

end Statement

end Relational
