import Relational.Proofs.Expr.Height
import Relational.Proofs.Grammar.Reading
import Relational.Proofs.Schema
import Relational.Statement.Binding

/-!
# Canonical spellings

Every statement that the grammar can form has a canonical spelling as a list of
terminals.  Names are written as names, a negative number as a minus sign and its
magnitude, and every part of an expression stands in parentheses, except for the
interval of a date subtraction.
-/

namespace Relational

open Grammar

namespace Value

/-- The spelling of a literal. -/
def terminals : Value → List Terminal
  | .null => [.keyword .null]
  | .integer n => if n < 0 then [.symbol .minus, .integer (-n)] else [.integer n]
  | .float x => if x.isNegative then [.symbol .minus, .float (-x)] else [.float x]
  | .boolean b => [.keyword (if b then .trueLiteral else .falseLiteral)]
  | .text s => [.text s]

end Value

namespace BinaryOperator

/-- The terminal that denotes an operator. -/
def terminal : BinaryOperator → Terminal
  | .equal => .symbol .equal
  | .notEqual => .symbol .notEqual
  | .less => .symbol .less
  | .lessEqual => .symbol .lessEqual
  | .greater => .symbol .greater
  | .greaterEqual => .symbol .greaterEqual
  | .and => .keyword .and
  | .or => .keyword .or
  | .add => .symbol .plus
  | .subtract => .symbol .minus
  | .multiply => .symbol .star
  | .divide => .symbol .slash

end BinaryOperator

namespace AggregateFunction

/-- The keyword that names an aggregate function. -/
def keyword : AggregateFunction → Keyword
  | .count => .count
  | .sum => .sum
  | .avg => .avg
  | .min => .min
  | .max => .max

end AggregateFunction

namespace Grammar

/-- A spelling in parentheses. -/
def enclosed (inner : List Terminal) : List Terminal :=
  .symbol .leftParen :: (inner ++ [.symbol .rightParen])

/-- A keyword that is written if a choice asks for it. -/
def mark (choice : Bool) (keyword : Keyword) : List Terminal :=
  if choice then [.keyword keyword] else []

end Grammar

namespace Expr

/-- A part of an expression from its spelling: an interval is written as it is and
anything else in parentheses. -/
def enclose (part : Expr) (spelling : List Terminal) : List Terminal :=
  if part.isInterval then spelling else enclosed spelling

mutual

/-- The spelling of an expression. -/
def terminals : Expr → List Terminal
  | .column name => [.name name]
  | .literal value => value.terminals
  | .binary op left right =>
    enclose left (terminals left) ++ op.terminal :: enclose right (terminals right)
  | .unary .not operand => .keyword .not :: enclose operand (terminals operand)
  | .unary .minus operand => .symbol .minus :: enclose operand (terminals operand)
  | .aggregate function none _ => .keyword function.keyword :: enclosed [.symbol .star]
  | .aggregate function (some argument) distinct =>
    .keyword function.keyword ::
      enclosed (mark distinct .distinct ++ enclose argument (terminals argument))
  | .call function arguments =>
    .name function.name :: enclosed (separated (listTerminals arguments))
  | .interval amount unit =>
    .keyword .interval :: (enclose amount (terminals amount) ++ [.name unit.name])
  | .isIn operand items negated =>
    enclose operand (terminals operand) ++ mark negated .not ++
      .keyword .«in» :: enclosed (separated (listTerminals items))
  | .between operand low high negated =>
    enclose operand (terminals operand) ++ mark negated .not ++
      .keyword .between :: (enclose low (terminals low) ++
        .keyword .and :: enclose high (terminals high))
  | .like operand pattern negated =>
    enclose operand (terminals operand) ++ mark negated .not ++
      .keyword .like :: enclose pattern (terminals pattern)
  | .isNull operand negated =>
    enclose operand (terminals operand) ++ .keyword .is :: (mark negated .not ++ [.keyword .null])
termination_by structural expression => expression

/-- The spellings of the parts in a list. -/
def listTerminals : List Expr → List (List Terminal)
  | [] => []
  | part :: rest => enclose part (terminals part) :: listTerminals rest
termination_by structural expressions => expressions

end

/-- The spelling of an expression as a part of another one. -/
def partTerminals (part : Expr) : List Terminal :=
  enclose part part.terminals

/-- The spellings in a list are those of its parts. -/
theorem listTerminals_eq (expressions : List Expr) :
    listTerminals expressions = expressions.map partTerminals := by
  induction expressions with
  | nil => rfl
  | cons part rest ih =>
      rw [listTerminals, ih]
      rfl

section

variable (left right operand low high pattern : Expr) (items : List Expr) (negated : Bool)

theorem terminals_binary (op : BinaryOperator) : (binary op left right).terminals =
    left.partTerminals ++ op.terminal :: right.partTerminals :=
  rfl

theorem terminals_not : (unary .not operand).terminals = .keyword .not :: operand.partTerminals :=
  rfl

theorem terminals_minus :
    (unary .minus operand).terminals = .symbol .minus :: operand.partTerminals :=
  rfl

theorem terminals_aggregate (function : AggregateFunction) (distinct : Bool) :
    (aggregate function (some operand) distinct).terminals = .keyword function.keyword ::
      enclosed (mark distinct .distinct ++ operand.partTerminals) :=
  rfl

theorem terminals_call (function : ScalarFunction) : (call function items).terminals =
    .name function.name :: enclosed (separated (items.map partTerminals)) := by
  rw [terminals, listTerminals_eq]

theorem terminals_interval (unit : IntervalUnit) : (interval operand unit).terminals =
    .keyword .interval :: (operand.partTerminals ++ [.name unit.name]) :=
  rfl

/-- How a membership is spelled. -/
theorem terminals_isIn : (isIn operand items negated).terminals =
    operand.partTerminals ++ (mark negated .not ++
      .keyword .«in» :: enclosed (separated (items.map partTerminals))) := by
  rw [terminals, listTerminals_eq, List.append_assoc]
  rfl

/-- How a range is spelled. -/
theorem terminals_between : (between operand low high negated).terminals =
    operand.partTerminals ++ (mark negated .not ++
      .keyword .between :: (low.partTerminals ++ .keyword .and :: high.partTerminals)) := by
  rw [terminals, List.append_assoc]
  rfl

theorem terminals_like : (like operand pattern negated).terminals =
    operand.partTerminals ++ (mark negated .not ++ .keyword .like :: pattern.partTerminals) := by
  rw [terminals, List.append_assoc]
  rfl

theorem terminals_isNull : (isNull operand negated).terminals =
    operand.partTerminals ++ .keyword .is :: (mark negated .not ++ [.keyword .null]) :=
  rfl

end

/-- What the grammar asks of an expression apart from its parts: a number is an
integer or a float that a numeral with a sign can denote, only a count goes without
argument, a function takes its number of arguments, and a list of items is not
empty. -/
def Formed : Expr → Prop
  | .literal (.integer n) => Int64.minValue < n
  | .literal (.float x) => x.isNaN = false
  | .aggregate function none distinct => function = .count ∧ distinct = false
  | .call function arguments => arguments.length = function.arity
  | .isIn _ items _ => items ≠ []
  | _ => True

/-- No part of an expression is an interval, except for the second argument of a
date subtraction. -/
def PlacesIntervals : Expr → Prop
  | .call .dateSub [base, _] => base.isInterval = false
  | expression => ∀ part ∈ expression.parts, part.2.isInterval = false

/-- An expression that the grammar can form. -/
structure Expressible (expression : Expr) : Prop where
  not_interval : expression.isInterval = false
  formed : ∀ node ∈ expression.nodes, node.Formed
  intervals : ∀ node ∈ expression.nodes, node.PlacesIntervals

end Expr

/-! ### Statements -/

namespace Grammar

/-- A clause that a keyword introduces, if there is one. -/
def clause {α : Type} (keyword : Keyword) (write : α → List Terminal) : Option α → List Terminal
  | none => []
  | some content => .keyword keyword :: write content

/-- Names with commas between them. -/
def nameList (names : List String) : List Terminal :=
  separated (names.map fun name => [.name name])

end Grammar

namespace SelectItem

/-- The spelling of a select item. -/
def terminals : SelectItem → List Terminal
  | .all => [.symbol .star]
  | .expression value label =>
    value.terminals ++ clause .as (fun name => [.name name]) label

end SelectItem

namespace SortItem

/-- The spelling of a sort criterion. -/
def terminals (item : SortItem) : List Terminal :=
  [.name item.column, .keyword (if item.ascending then .asc else .desc)]

end SortItem

namespace ColumnType

/-- The keyword that names a column type. -/
def keyword : ColumnType → Keyword
  | .integer => .integer
  | .float => .float
  | .text => .text
  | .boolean => .boolean

end ColumnType

namespace Reference

/-- The spelling of the target of a reference. -/
def terminals (reference : Reference) : List Terminal :=
  .name reference.table :: enclosed [.name reference.column]

end Reference

namespace Column

/-- The spelling of a column's declaration. -/
def terminals (column : Column) : List Terminal :=
  .name column.name :: .keyword column.type.keyword ::
    ((if column.primaryKey then [.keyword .primary, .keyword .key] else []) ++
      clause .references Reference.terminals column.references)

end Column

namespace Statement

/-- The spelling of a condition of a statement. -/
def whereClause (condition : Option Expr) : List Terminal :=
  clause .«where» Expr.terminals condition

/-- The spelling of a number of rows. -/
def rowCount (count : Nat) : List Terminal :=
  [.integer (Int64.ofNat count)]

/-- The spelling of a statement. -/
def terminals : Statement → List Terminal
  | .select query =>
    .keyword .select :: (separated (query.items.map SelectItem.terminals) ++
      .keyword .«from» :: .name query.table :: (whereClause query.condition ++
        clause .group (fun names => .keyword .«by» :: nameList names) query.groupBy ++
        clause .having Expr.terminals query.having ++
        clause .order (fun items => .keyword .«by» :: separated (items.map SortItem.terminals))
          query.orderBy ++
        clause .limit rowCount query.limit ++ clause .offset rowCount query.offset))
  | .insert insertion =>
    .keyword .insert :: .keyword .into :: .name insertion.table ::
      (enclosed (nameList insertion.columns) ++
        .keyword .values :: enclosed (separated (insertion.values.map Expr.terminals)))
  | .update change =>
    .keyword .update :: .name change.table :: .keyword .«set» ::
      (separated (change.assignments.map fun assignment =>
          .name assignment.1 :: .symbol .equal :: assignment.2.terminals) ++
        whereClause change.condition)
  | .delete removal =>
    .keyword .delete :: .keyword .«from» :: .name removal.table :: whereClause removal.condition
  | .createTable schema =>
    .keyword .create :: .keyword .table :: .name schema.name ::
      enclosed (separated (schema.columns.map Column.terminals))
  | .createIndex declaration =>
    [.keyword .create, .keyword .index, .name declaration.index, .keyword .on,
      .name declaration.table] ++ enclosed [.name declaration.column]
  | .dropTable table => [.keyword .drop, .keyword .table, .name table]
  | .showTables => [.keyword .«show», .keyword .tables]

/-- The expressions that a statement is made of. -/
def expressions : Statement → List Expr
  | .select query =>
    query.items.filterMap SelectItem.expression? ++ query.condition.toList ++ query.having.toList
  | .insert insertion => insertion.values
  | .update change => change.assignments.map Prod.snd ++ change.condition.toList
  | .delete removal => removal.condition.toList
  | _ => []

/-- What the grammar asks of a statement apart from its expressions: no list is
empty, a number of rows fits an integer literal, and a declaration of a table
declares a valid schema without indexes. -/
def Formed : Statement → Prop
  | .select query =>
    query.items ≠ [] ∧ query.groupBy ≠ some [] ∧ query.orderBy ≠ some [] ∧
      (∀ count ∈ query.limit, count < 2 ^ 63) ∧ ∀ count ∈ query.offset, count < 2 ^ 63
  | .insert insertion => insertion.columns ≠ [] ∧ insertion.values ≠ []
  | .update change => change.assignments ≠ []
  | .createTable schema => schema.Valid ∧ schema.indexes = []
  | _ => True

end Statement

end Relational
