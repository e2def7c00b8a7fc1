import Relational.Database
import Relational.Query.Result
import Relational.Table.ChangeLog

/-!
# Running statements

A statement is run on a database and yields the database afterwards together
with its outcome.  Changes of several rows are computed before the first row is
touched; if applying them fails all the same, those already made are reversed.
-/

namespace Relational

/-- What a statement that succeeded reports. -/
inductive Outcome where
  | rows (columns : List String) (rows : List Row)
  | changed (count : Nat)
  | defined (message : String)
deriving DecidableEq

namespace Outcome

/-- The number of rows shown or changed. -/
def rowCount : Outcome → Nat
  | .rows _ shown => shown.length
  | .changed count => count
  | .defined _ => 0

end Outcome

namespace Update

/-- A row with its assigned columns replaced, all new contents being computed
from the row as it was. -/
def assign (scope : Scope) (schema : Schema) :
    List (Nat × Expr) → Row → Except Error Row
  | [], row => .ok row
  | (position, content) :: rest, row => do
    let column ← schema.columnAt position
    let value ← content.evaluate scope
    let coerced ← value.coerce column.type column.name
    let changed ← Row.withCell row position coerced
    assign scope schema rest changed

/-- The new rows of a change. -/
def changes (now : DateTime) (table : Table) (bound : BoundUpdate) :
    Except Error (List (RowId × Row)) := do
  let rows ← table.matchingRows now bound.condition
  rows.mapM fun entry => do
    let scope := Scope.ofRow now table.schema entry.2
    let changed ← assign scope table.schema bound.assignments entry.2
    return (entry.1, changed)

end Update

namespace Table

/-- Replace rows one after another, recording how to reverse it.  A failure
reverses what was done. -/
def applyUpdates (table : Table) (log : ChangeLog) :
    List (RowId × Row) → Table × Except Error Nat
  | [] => (table, .ok log.length)
  | (id, row) :: rest =>
    match table.update id row with
    | .ok (changed, before) => applyUpdates changed (.updated id before :: log) rest
    | .error error => ((ChangeLog.rollback table log).table, .error error)

/-- Remove rows one after another, recording how to reverse it.  A failure
reverses what was done. -/
def applyDeletes (table : Table) (log : ChangeLog) : List RowId → Table × Except Error Nat
  | [] => (table, .ok log.length)
  | id :: rest =>
    match table.delete id with
    | .ok (remaining, row) => applyDeletes remaining (.deleted id row :: log) rest
    | .error error => ((ChangeLog.rollback table log).table, .error error)

end Table

namespace Database

/-- The answer to a query. -/
def select (now : DateTime) (database : Database) (query : Select) : Except Error Outcome := do
  let table ← database.table query.table
  let bound ← query.bind table.schema
  let rows ← bound.answer now table
  return .rows (bound.columnNames table.schema) rows

/-- The names of the tables. -/
def showTables (database : Database) : Outcome :=
  .rows ["table_name"] (database.tables.names.map fun name => [.text name])

/-- Run a statement that only reads. -/
def query (now : DateTime) (database : Database) : Statement → Except Error Outcome
  | .select query => database.select now query
  | .showTables => .ok database.showTables
  | statement => .error (.invalidQuery (.needsWriteAccess statement.name))

/-- Add a row. -/
def insertRow (now : DateTime) (database : Database) (insertion : Insert) :
    Except Error Database := do
  let table ← database.table insertion.table
  let row ← insertion.bind now table.schema
  let (extended, _) ← table.insert row
  return database.withTable insertion.table extended

/-- Declare an index. -/
def createIndex (database : Database) (declaration : CreateIndex) : Except Error Database := do
  let table ← database.table declaration.table
  let extended ← table.createIndex ⟨declaration.index, declaration.column⟩
  return database.withTable declaration.table extended

/-- The table and the new rows of a change. -/
def prepareUpdate (now : DateTime) (database : Database) (change : Update) :
    Except Error (Table × List (RowId × Row)) := do
  let table ← database.table change.table
  let bound ← change.bind table.schema
  let changes ← Update.changes now table bound
  return (table, changes)

/-- The table and the rows of a removal. -/
def prepareDelete (now : DateTime) (database : Database) (removal : Delete) :
    Except Error (Table × List RowId) := do
  let table ← database.table removal.table
  let condition ← Expr.bindCondition table.schema removal.condition
  let rows ← table.matchingRows now condition
  return (table, rows.map Prod.fst)

/-- A change that succeeds as a whole or leaves the database alone. -/
def whole (database : Database) (outcome : Outcome) :
    Except Error Database → Database × Except Error Outcome
  | .ok changed => (changed, .ok outcome)
  | .error error => (database, .error error)

/-- The database with a table after changes of its rows, and their outcome. -/
def withChanges (database : Database) (name : String) (applied : Table × Except Error Nat) :
    Database × Except Error Outcome :=
  (database.withTable name applied.1, applied.2.map .changed)

/-- Run a statement of any form. -/
def execute (now : DateTime) (database : Database) :
    Statement → Database × Except Error Outcome
  | .insert insertion => database.whole (.changed 1) (database.insertRow now insertion)
  | .update change =>
    match database.prepareUpdate now change with
    | .ok (table, changes) => database.withChanges change.table (table.applyUpdates [] changes)
    | .error error => (database, .error error)
  | .delete removal =>
    match database.prepareDelete now removal with
    | .ok (table, ids) => database.withChanges removal.table (table.applyDeletes [] ids)
    | .error error => (database, .error error)
  | .createTable schema =>
    database.whole (.defined ("Table '" ++ schema.name ++ "' created"))
      (database.createTable schema)
  | .createIndex declaration =>
    database.whole
      (.defined ("Index '" ++ declaration.index ++ "' created on " ++ declaration.table ++
        "(" ++ declaration.column ++ ")"))
      (database.createIndex declaration)
  | .dropTable name =>
    database.whole (.defined ("Table '" ++ name ++ "' dropped")) (database.dropTable name)
  | statement => (database, database.query now statement)

/-- The plan for the rows that a statement reads or changes. -/
def plan (database : Database) : Statement → Except Error Plan
  | .select query => do
    let table ← database.table query.table
    let bound ← query.bind table.schema
    return Plan.choose table bound.condition
  | .update change => do
    let table ← database.table change.table
    let bound ← change.bind table.schema
    return Plan.choose table bound.condition
  | .delete removal => do
    let table ← database.table removal.table
    let condition ← Expr.bindCondition table.schema removal.condition
    return Plan.choose table condition
  | statement => .error (.invalidQuery (.noPlan statement.name))

end Database

end Relational
