import Relational.Expr.Evaluation
import Relational.Statement

/-!
# Binding statements to a schema

Before a statement runs, its names are checked against the table's schema and
its literals are brought to the types of the columns they are compared with or
assigned to.  The checks come in a fixed order: columns first, then the shape
of the statement, then literals.
-/

namespace Relational

/-- A change of rows with the positions of the assigned columns. -/
structure BoundUpdate where
  assignments : List (Nat × Expr)
  condition : Option Expr

namespace Row

/-- A row with a new cell at a position that comes from the row's schema. -/
def withCell (row : Row) (position : Nat) (value : Value) : Except Error Row :=
  if position < row.length then .ok (row.set position value)
  else .error (.invalidQuery (.positionOutOfRange position))

end Row

namespace SelectItem

/-- The label that an item was given. -/
def label? : SelectItem → Option String
  | .all => none
  | .expression _ given => given

/-- The expression of an item. -/
def expression? : SelectItem → Option Expr
  | .all => none
  | .expression shown _ => some shown

end SelectItem

namespace Expr

/-- The first column of an expression that is neither in the schema nor one of
some labels. -/
def unknownColumn? (schema : Schema) (labels : List String) (expression : Expr) :
    Option String :=
  expression.nodes.findSome? fun node =>
    match node with
    | .column name => if (schema.position? name).isNone && name ∉ labels then some name else none
    | _ => none

/-- Every column of an expression has to be in the schema or one of some
labels. -/
def checkColumns (schema : Schema) (labels : List String) (expression : Expr) :
    Except Error Unit :=
  match expression.unknownColumn? schema labels with
  | some name => .error (.columnNotFound schema.name name)
  | none => .ok ()

/-- An expression in this clause has to be free of aggregates. -/
def rejectAggregates (clause : String) (expression : Expr) : Except Error Unit :=
  match expression.nodes.find? isAggregate with
  | some found => .error (.invalidQuery (.aggregateNotAllowedIn found.text clause))
  | none => .ok ()

mutual

/-- The first column that an expression mentions outside of aggregates and that
is not grouped by. -/
def ungroupedColumn? (grouped : List String) : Expr → Option String
  | .aggregate _ _ _ => none
  | .literal _ => none
  | .column name => if name ∈ grouped then none else some name
  | .binary _ left right => (ungroupedColumn? grouped left).or (ungroupedColumn? grouped right)
  | .unary _ operand => ungroupedColumn? grouped operand
  | .isNull operand _ => ungroupedColumn? grouped operand
  | .interval amount _ => ungroupedColumn? grouped amount
  | .call _ arguments => firstUngrouped? grouped arguments
  | .isIn operand items _ => (ungroupedColumn? grouped operand).or (firstUngrouped? grouped items)
  | .between operand low high _ =>
    ((ungroupedColumn? grouped operand).or (ungroupedColumn? grouped low)).or
      (ungroupedColumn? grouped high)
  | .like operand pattern _ =>
    (ungroupedColumn? grouped operand).or (ungroupedColumn? grouped pattern)
termination_by structural expression => expression

/-- The first such column in a list of expressions. -/
def firstUngrouped? (grouped : List String) : List Expr → Option String
  | [] => none
  | expression :: rest =>
    (ungroupedColumn? grouped expression).or (firstUngrouped? grouped rest)
termination_by structural expressions => expressions

end

/-- A value as the content of a column that it is compared with. -/
def coerceFor (schema : Schema) (name : String) (value : Value) : Except Error Value :=
  match schema.column? name with
  | some declared => value.coerce declared.type declared.name
  | none => .ok value

/-- An operand that a column is compared with, a literal being coerced. -/
def coerceOperand (schema : Schema) (name : String) : Expr → Except Error Expr
  | .literal value => do
    let coerced ← coerceFor schema name value
    return .literal coerced
  | expression => .ok expression

/-- The operands of a comparison, a literal beside a column being coerced. -/
def coerceComparison (schema : Schema) : Expr → Expr → Except Error (Expr × Expr)
  | .column name, .literal value => do
    let coerced ← coerceFor schema name value
    return (.column name, .literal coerced)
  | .literal value, .column name => do
    let coerced ← coerceFor schema name value
    return (.literal coerced, .column name)
  | left, right => .ok (left, right)

/-- A condition whose literals beside columns have the types of those columns,
as far as they are reached through `AND`, `OR`, `NOT` and minus signs. -/
def coerceLiterals (schema : Schema) : Expr → Except Error Expr
  | .binary .and left right => do
    let l ← coerceLiterals schema left
    let r ← coerceLiterals schema right
    return .binary .and l r
  | .binary .or left right => do
    let l ← coerceLiterals schema left
    let r ← coerceLiterals schema right
    return .binary .or l r
  | .binary op left right =>
    if op.isComparison then do
      let (l, r) ← coerceComparison schema left right
      return .binary op l r
    else .ok (.binary op left right)
  | .unary op operand => do
    let coerced ← coerceLiterals schema operand
    return .unary op coerced
  | .isIn (.column name) items negated => do
    let coerced ← items.mapM (coerceOperand schema name)
    return .isIn (.column name) coerced negated
  | .between (.column name) low high negated => do
    let l ← coerceOperand schema name low
    let h ← coerceOperand schema name high
    return .between (.column name) l h negated
  | expression => .ok expression

/-- An optional condition with coerced literals. -/
def coerceCondition (schema : Schema) : Option Expr → Except Error (Option Expr)
  | none => .ok none
  | some condition => do
    let coerced ← coerceLiterals schema condition
    return some coerced

/-- A check of an expression that may be missing. -/
def checkOptional (check : Expr → Except Error Unit) : Option Expr → Except Error Unit
  | none => .ok ()
  | some expression => check expression

/-- The condition of a statement without a select list. -/
def bindCondition (schema : Schema) (condition : Option Expr) : Except Error (Option Expr) := do
  checkOptional (checkColumns schema []) condition
  checkOptional (rejectAggregates "WHERE") condition
  coerceCondition schema condition

end Expr

namespace Select

/-- The labels of the select list. -/
def labels (query : Select) : List String :=
  query.items.filterMap SelectItem.label?

/-- Whether the result is made of groups of rows because of an aggregate. -/
def hasAggregate (query : Select) : Bool :=
  (query.items.filterMap SelectItem.expression?).any Expr.containsAggregate ||
    query.having.any Expr.containsAggregate

/-- Every column that a query mentions has to exist.  `HAVING` and `ORDER BY`
may also mention labels. -/
def checkColumns (schema : Schema) (query : Select) : Except Error Unit := do
  (query.items.filterMap SelectItem.expression?).forM (Expr.checkColumns schema [])
  Expr.checkOptional (Expr.checkColumns schema []) query.condition
  (query.groupBy.getD []).forM fun column => do
    let _ ← schema.position column
  Expr.checkOptional (Expr.checkColumns schema query.labels) query.having
  (query.orderBy.getD []).forM fun item =>
    if item.column ∈ query.labels then .ok ()
    else do
      let _ ← schema.position item.column

/-- An item of a grouped query shows grouped columns and aggregates only. -/
def checkGroupedItem (grouped : List String) : SelectItem → Except Error Unit
  | .all => .error (.invalidQuery .starWithAggregation)
  | .expression expression _ =>
    match expression.ungroupedColumn? grouped with
    | some column => .error (.invalidQuery (.columnNotGrouped column))
    | none => .ok ()

/-- Aggregates stand where groups are formed, and groups show only what all of
their rows share. -/
def checkGrouping (query : Select) : Except Error Unit := do
  Expr.checkOptional (Expr.rejectAggregates "WHERE") query.condition
  match query.groupBy with
  | some grouped => query.items.forM (checkGroupedItem grouped)
  | none =>
    if query.hasAggregate then query.items.forM (checkGroupedItem [])
    else if query.having.isSome then .error (.invalidQuery .havingWithoutGroups)
    else .ok ()

/-- A query with its names checked and the literals of its condition coerced. -/
def bind (schema : Schema) (query : Select) : Except Error Select := do
  query.checkColumns schema
  query.checkGrouping
  let condition ← Expr.coerceCondition schema query.condition
  return { query with condition := condition }

end Select

namespace Insert

/-- The value of a column of the new row, coerced to the column's type. -/
def bindValue (now : DateTime) (schema : Schema) (position : Nat) (expression : Expr) :
    Except Error Value := do
  let column ← schema.columnAt position
  let value ← expression.evaluate (Scope.empty now schema.name)
  value.coerce column.type column.name

/-- A row with the values of some columns filled in, in the order in which the
statement gives them. -/
def fill (now : DateTime) (schema : Schema) :
    List (Nat × Expr) → Row → Except Error Row
  | [], row => .ok row
  | (position, expression) :: rest, row => do
    let value ← bindValue now schema position expression
    let filled ← Row.withCell row position value
    fill now schema rest filled

/-- The row that an insertion adds: every column is named once and gets a
value, and the primary key is not null. -/
def bind (now : DateTime) (schema : Schema) (insertion : Insert) : Except Error Row := do
  let positions ← insertion.columns.mapM schema.position
  if insertion.columns.length ≠ insertion.values.length then
    .error (.invalidQuery
      (.countMismatch insertion.columns.length insertion.values.length))
  else
    match Schema.firstRepeated? [] insertion.columns with
    | some column => .error (.constraint (.columnRepeated column))
    | none =>
      match schema.columns.find? fun declared => declared.name ∉ insertion.columns with
      | some missing => .error (.constraint (.columnMissing schema.name missing.name))
      | none => do
        let blank := List.replicate schema.columns.length Value.null
        let row ← fill now schema (positions.zip insertion.values) blank
        let key ← Row.cell row schema.keyPosition
        if key.isNull then .error (.constraint (.nullPrimaryKey schema.keyName))
        else return row

end Insert

namespace Update

/-- The position of an assigned column, after the columns of the new content
have been checked. -/
def assignedPosition (schema : Schema) (assignment : String × Expr) : Except Error Nat := do
  let position ← schema.position assignment.1
  assignment.2.checkColumns schema []
  return position

/-- The primary key is not assigned, and no column is assigned twice. -/
def checkTargets (schema : Schema) (seen : List String) : List String → Except Error Unit
  | [] => .ok ()
  | column :: rest =>
    if column = schema.keyName then .error (.constraint (.primaryKeyUpdate column))
    else if column ∈ seen then .error (.invalidQuery (.columnAssignedTwice column))
    else checkTargets schema (column :: seen) rest

/-- The new content of a column, a literal being coerced to its type. -/
def bindAssignment (schema : Schema) (position : Nat) (content : Expr) :
    Except Error (Nat × Expr) := do
  content.rejectAggregates "SET"
  let column ← schema.columnAt position
  match content with
  | .literal value => do
    let coerced ← value.coerce column.type column.name
    return (position, .literal coerced)
  | expression => return (position, expression)

/-- A change of rows with its names resolved and its literals coerced. -/
def bind (schema : Schema) (change : Update) : Except Error BoundUpdate := do
  let positions ← change.assignments.mapM (assignedPosition schema)
  Expr.checkOptional (Expr.checkColumns schema []) change.condition
  checkTargets schema [] (change.assignments.map Prod.fst)
  Expr.checkOptional (Expr.rejectAggregates "WHERE") change.condition
  let assignments ← (positions.zip (change.assignments.map Prod.snd)).mapM fun target =>
    bindAssignment schema target.1 target.2
  let condition ← Expr.coerceCondition schema change.condition
  return ⟨assignments, condition⟩

end Update

end Relational
