import Relational.Value.Basic

/-!
# Expressions

The expressions of the query language as trees, with their canonical text and
the list of their subexpressions.  The text names result columns that have no
label of their own.
-/

namespace Relational

/-- The operators between two operands. -/
inductive BinaryOperator where
  | equal
  | notEqual
  | less
  | lessEqual
  | greater
  | greaterEqual
  | and
  | or
  | add
  | subtract
  | multiply
  | divide
deriving DecidableEq, Repr

/-- The precedence of comparisons and of the predicates `IS`, `IN`, `LIKE` and
`BETWEEN`. -/
def comparisonPrecedence : Nat := 3

namespace BinaryOperator

/-- How tightly an operator binds; greater binds tighter. -/
def precedence : BinaryOperator → Nat
  | .or => 1
  | .and => 2
  | .add => 4
  | .subtract => 4
  | .multiply => 5
  | .divide => 5
  | _ => comparisonPrecedence

/-- The operators that compare their operands. -/
def isComparison (op : BinaryOperator) : Bool :=
  op.precedence == comparisonPrecedence

/-- The canonical spelling of an operator. -/
def spelling : BinaryOperator → String
  | .equal => "="
  | .notEqual => "!="
  | .less => "<"
  | .lessEqual => "<="
  | .greater => ">"
  | .greaterEqual => ">="
  | .and => "AND"
  | .or => "OR"
  | .add => "+"
  | .subtract => "-"
  | .multiply => "*"
  | .divide => "/"

end BinaryOperator

/-- The operators in front of an operand. -/
inductive UnaryOperator where
  | not
  | minus
deriving DecidableEq, Repr

/-- The functions of a group of rows. -/
inductive AggregateFunction where
  | count
  | sum
  | avg
  | min
  | max
deriving DecidableEq, Repr

namespace AggregateFunction

/-- The name of an aggregate function. -/
def name : AggregateFunction → String
  | .count => "COUNT"
  | .sum => "SUM"
  | .avg => "AVG"
  | .min => "MIN"
  | .max => "MAX"

end AggregateFunction

/-- The functions of one row, all of them about dates. -/
inductive ScalarFunction where
  | year
  | month
  | day
  | dayName
  | dayOfWeek
  | now
  | dateSub
deriving DecidableEq, Repr

namespace ScalarFunction

/-- The canonical name of a function. -/
def name : ScalarFunction → String
  | .year => "YEAR"
  | .month => "MONTH"
  | .day => "DAY"
  | .dayName => "DAYNAME"
  | .dayOfWeek => "DAYOFWEEK"
  | .now => "NOW"
  | .dateSub => "DATE_SUB"

/-- The function that a name in any mix of ASCII cases denotes. -/
def ofName? (name : String) : Option ScalarFunction :=
  match String.ofList (name.toList.map Char.toUpper) with
  | "YEAR" => some .year
  | "MONTH" => some .month
  | "DAY" => some .day
  | "DAYOFMONTH" => some .day
  | "DAYNAME" => some .dayName
  | "DAYOFWEEK" => some .dayOfWeek
  | "NOW" => some .now
  | "DATE_SUB" => some .dateSub
  | _ => none

/-- How many arguments a function takes. -/
def arity : ScalarFunction → Nat
  | .now => 0
  | .dateSub => 2
  | _ => 1

end ScalarFunction

/-- The units of an interval of time. -/
inductive IntervalUnit where
  | minute
  | hour
  | day
  | week
  | month
  | year
deriving DecidableEq, Repr

namespace IntervalUnit

/-- The canonical name of a unit. -/
def name : IntervalUnit → String
  | .minute => "MINUTE"
  | .hour => "HOUR"
  | .day => "DAY"
  | .week => "WEEK"
  | .month => "MONTH"
  | .year => "YEAR"

/-- The unit that a name denotes, in any mix of ASCII cases and with any number
of plural endings. -/
def ofName? (name : String) : Option IntervalUnit :=
  let upper := name.toList.map Char.toUpper
  match String.ofList ((upper.reverse.dropWhile (· = 'S')).reverse) with
  | "MINUTE" => some .minute
  | "HOUR" => some .hour
  | "DAY" => some .day
  | "WEEK" => some .week
  | "MONTH" => some .month
  | "YEAR" => some .year
  | _ => none

end IntervalUnit

/-- An expression of the query language. -/
inductive Expr where
  | column (name : String)
  | literal (value : Value)
  | binary (op : BinaryOperator) (left right : Expr)
  | unary (op : UnaryOperator) (operand : Expr)
  /-- An aggregate over a group; without argument it counts rows. -/
  | aggregate (function : AggregateFunction) (argument : Option Expr) (distinct : Bool)
  | call (function : ScalarFunction) (arguments : List Expr)
  /-- An interval of time, which only `DATE_SUB` gives a meaning. -/
  | interval (amount : Expr) (unit : IntervalUnit)
  | isIn (operand : Expr) (items : List Expr) (negated : Bool)
  | between (operand low high : Expr) (negated : Bool)
  | like (operand pattern : Expr) (negated : Bool)
  | isNull (operand : Expr) (negated : Bool)
deriving Inhabited

namespace Expr

mutual

/-- An expression and all expressions inside it, each before its parts, in the
order in which they are written. -/
def nodes : Expr → List Expr
  | .column name => [.column name]
  | .literal value => [.literal value]
  | .binary op left right => .binary op left right :: (nodes left ++ nodes right)
  | .unary op operand => .unary op operand :: nodes operand
  | .aggregate function none distinct => [.aggregate function none distinct]
  | .aggregate function (some argument) distinct =>
    .aggregate function (some argument) distinct :: nodes argument
  | .call function arguments => .call function arguments :: nodesOfList arguments
  | .interval amount unit => .interval amount unit :: nodes amount
  | .isIn operand items negated =>
    .isIn operand items negated :: (nodes operand ++ nodesOfList items)
  | .between operand low high negated =>
    .between operand low high negated :: (nodes operand ++ nodes low ++ nodes high)
  | .like operand pattern negated =>
    .like operand pattern negated :: (nodes operand ++ nodes pattern)
  | .isNull operand negated => .isNull operand negated :: nodes operand
termination_by structural expression => expression

/-- The expressions in a list and all expressions inside them. -/
def nodesOfList : List Expr → List Expr
  | [] => []
  | expression :: rest => nodes expression ++ nodesOfList rest
termination_by structural expressions => expressions

end

/-- Whether an expression is a call of an aggregate function. -/
def isAggregate : Expr → Bool
  | .aggregate _ _ _ => true
  | _ => false

/-- Whether an aggregate occurs anywhere in an expression. -/
def containsAggregate (expression : Expr) : Bool :=
  expression.nodes.any isAggregate

mutual

/-- Two expressions are written alike, their literals being the same values. -/
def same : Expr → Expr → Bool
  | .column a, .column b => a == b
  | .literal v, .literal w => v.same w
  | .binary op left right, .binary op' left' right' =>
    op == op' && same left left' && same right right'
  | .unary op operand, .unary op' operand' => op == op' && same operand operand'
  | .aggregate f none distinct, .aggregate f' none distinct' => f == f' && distinct == distinct'
  | .aggregate f (some argument) distinct, .aggregate f' (some argument') distinct' =>
    f == f' && same argument argument' && distinct == distinct'
  | .call f arguments, .call f' arguments' => f == f' && sameList arguments arguments'
  | .interval amount unit, .interval amount' unit' => same amount amount' && unit == unit'
  | .isIn operand items negated, .isIn operand' items' negated' =>
    same operand operand' && sameList items items' && negated == negated'
  | .between operand low high negated, .between operand' low' high' negated' =>
    same operand operand' && same low low' && same high high' && negated == negated'
  | .like operand pattern negated, .like operand' pattern' negated' =>
    same operand operand' && same pattern pattern' && negated == negated'
  | .isNull operand negated, .isNull operand' negated' =>
    same operand operand' && negated == negated'
  | _, _ => false
termination_by structural expression => expression

/-- Two lists of expressions are written alike. -/
def sameList : List Expr → List Expr → Bool
  | [], [] => true
  | expression :: rest, expression' :: rest' =>
    same expression expression' && sameList rest rest'
  | _, _ => false
termination_by structural expressions => expressions

end

/-- A word that is written only in the negated form of a predicate. -/
def negation (negated : Bool) : String :=
  if negated then "NOT " else ""

mutual

/-- The canonical text of an expression.  It has no parentheses, so that
different expressions may share it. -/
def text : Expr → String
  | .column name => name
  | .literal value => value.sqlLiteral
  | .binary op left right => text left ++ " " ++ op.spelling ++ " " ++ text right
  | .unary .not operand => "NOT " ++ text operand
  | .unary .minus operand => "-" ++ text operand
  | .aggregate function none _ => function.name ++ "(*)"
  | .aggregate function (some argument) distinct =>
    function.name ++ "(" ++ (if distinct then "DISTINCT " else "") ++ text argument ++ ")"
  | .call function arguments => function.name ++ "(" ++ listText arguments ++ ")"
  | .interval amount unit => "INTERVAL " ++ text amount ++ " " ++ unit.name
  | .isIn operand items negated =>
    text operand ++ " " ++ negation negated ++ "IN (" ++ listText items ++ ")"
  | .between operand low high negated =>
    text operand ++ " " ++ negation negated ++ "BETWEEN " ++ text low ++ " AND " ++ text high
  | .like operand pattern negated =>
    text operand ++ " " ++ negation negated ++ "LIKE " ++ text pattern
  | .isNull operand negated => text operand ++ " IS " ++ negation negated ++ "NULL"
termination_by structural expression => expression

/-- The texts of some expressions, separated by commas. -/
def listText : List Expr → String
  | [] => ""
  | [expression] => text expression
  | expression :: rest => text expression ++ ", " ++ listText rest
termination_by structural expressions => expressions

end

end Expr

end Relational
