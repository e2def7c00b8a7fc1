import Relational.Expr
import Relational.Grammar.Parser

/-!
# The grammar of expressions

Expressions are read by operator precedence: an operand, then operators as long
as they bind at least as tightly as asked for, each with a right operand that
binds more tightly.  The predicates `IS`, `IN`, `LIKE` and `BETWEEN` follow an
operand at the precedence of comparisons.  Nesting deeper than `maxNesting`
levels is refused.

The recursion is bounded by a number of steps that every caller derives from
the number of tokens: each token costs at most two.
-/

namespace Relational

namespace Grammar

/-- How many levels of nesting an expression may have. -/
def maxNesting : Nat := 128

/-- The operator that a terminal denotes between two operands. -/
def binaryOperator? : Terminal → Option BinaryOperator
  | .symbol .equal => some .equal
  | .symbol .notEqual => some .notEqual
  | .symbol .less => some .less
  | .symbol .lessEqual => some .lessEqual
  | .symbol .greater => some .greater
  | .symbol .greaterEqual => some .greaterEqual
  | .symbol .plus => some .add
  | .symbol .minus => some .subtract
  | .symbol .star => some .multiply
  | .symbol .slash => some .divide
  | .keyword .and => some .and
  | .keyword .or => some .or
  | _ => none

/-- The words that continue a predicate after an optional `NOT`. -/
def continuesPredicate : Terminal → Bool
  | .keyword .«in» => true
  | .keyword .like => true
  | .keyword .between => true
  | _ => false

/-- Whether two terminals start a predicate. -/
def startsPredicate (first second : Terminal) : Bool :=
  match first with
  | .keyword .is => true
  | .keyword .not => continuesPredicate second
  | terminal => continuesPredicate terminal

/-- A predicate about an operand that was already read. -/
def predicate (expression : Nat → Parser Expr) (operand : Expr) : Parser Expr := do
  if ← accept (.keyword .is) then
    let negated ← accept (.keyword .not)
    expectKeyword .null
    return .isNull operand negated
  else
    let negated ← accept (.keyword .not)
    if ← accept (.keyword .«in») then
      expectSymbol .leftParen
      let items ← list (expression 1)
      expectSymbol .rightParen
      return .isIn operand items negated
    else if ← accept (.keyword .like) then
      let pattern ← expression (comparisonPrecedence + 1)
      return .like operand pattern negated
    else if ← accept (.keyword .between) then
      let low ← expression (comparisonPrecedence + 1)
      expectKeyword .and
      let high ← expression (comparisonPrecedence + 1)
      return .between operand low high negated
    else
      Parser.refuse .predicate

/-- The operators and predicates that follow an operand, as long as they bind
at least as tightly as `least`. -/
def operators (expression : Nat → Parser Expr) (least : Nat) : Nat → Expr → Parser Expr
  | 0, _ => Parser.refuse .expression
  | steps + 1, left => do
    let (first, second) ← look
    if startsPredicate first second then
      if comparisonPrecedence < least then
        return left
      else
        let predicated ← predicate expression left
        operators expression least steps predicated
    else
      match binaryOperator? first with
      | none => return left
      | some op =>
        if op.precedence < least then
          return left
        else
          let _ ← advance
          let right ← expression (op.precedence + 1)
          operators expression least steps (.binary op left right)

/-- The aggregate function that a keyword names. -/
def aggregateFunction? : Keyword → Option AggregateFunction
  | .count => some .count
  | .sum => some .sum
  | .avg => some .avg
  | .min => some .min
  | .max => some .max
  | _ => none

/-- The call of an aggregate function, whose name is at the front. -/
def aggregateCall (expression : Nat → Parser Expr) (function : AggregateFunction) :
    Parser Expr := do
  let _ ← advance
  expectSymbol .leftParen
  let countsRows ← acceptIf (function = .count) (.symbol .star)
  if countsRows then
    expectSymbol .rightParen
    return .aggregate function none false
  else
    let distinct ← accept (.keyword .distinct)
    let argument ← expression 1
    expectSymbol .rightParen
    return .aggregate function (some argument) distinct

/-- The amount and unit of an interval, after the word `INTERVAL`. -/
def intervalAmount (operand : Parser Expr) : Parser Expr := do
  let amount ← operand
  match ← look with
  | (.name s, _) =>
    match IntervalUnit.ofName? s with
    | some unit => do
      let _ ← advance
      return .interval amount unit
    | none => Parser.refuse .intervalUnit
  | _ => Parser.refuse .intervalUnit

/-- The argument of a function at a position.  The second argument of
`DATE_SUB` may be an interval. -/
def argument (expression : Nat → Parser Expr) (operand : Parser Expr)
    (function : ScalarFunction) (position : Nat) : Parser Expr := do
  let isInterval ← acceptIf (function = .dateSub ∧ position = 1) (.keyword .interval)
  if isInterval then intervalAmount operand else expression 1

/-- The arguments of a function, none if a parenthesis is at the front. -/
def argumentList (expression : Nat → Parser Expr) (operand : Parser Expr)
    (function : ScalarFunction) : Parser (List Expr) :=
  fun tokens =>
    if front tokens = .symbol .rightParen then .ok ([], tokens)
    else listFrom (argument expression operand function) (tokens.length + 1) 0 tokens

/-- The call of a function by its name, which is at the front. -/
def functionCall (expression : Nat → Parser Expr) (operand : Parser Expr) (name : String) :
    Parser Expr := do
  match ScalarFunction.ofName? name with
  | none => Parser.refuse .functionName
  | some function => do
    let _ ← advance
    expectSymbol .leftParen
    let arguments ← argumentList expression operand function
    if arguments.length < function.arity then
      Parser.refuse (.terminal (.symbol .comma))
    else if function.arity < arguments.length then
      Parser.refuse (.terminal (.symbol .rightParen))
    else
      expectSymbol .rightParen
      return .call function arguments

mutual

/-- An expression whose operators bind at least as tightly as `least`, `depth`
levels below the outermost one. -/
def expressionAt : Nat → Nat → Nat → Parser Expr
  | 0, _, _ => Parser.refuse .expression
  | steps + 1, depth, least =>
    if maxNesting ≤ depth then Parser.refuse .expression
    else do
      let left ← operandAt steps (depth + 1)
      fun tokens =>
        operators (expressionAt steps (depth + 1)) least (tokens.length + 1) left tokens

/-- An operand: a literal, a column, a call, an expression in parentheses, or
an operand behind a minus sign or an expression behind `NOT`.  A minus sign in
front of a number belongs to the number. -/
def operandAt : Nat → Nat → Parser Expr
  | 0, _ => Parser.refuse .expression
  | steps + 1, depth => do
    let (first, second) ← look
    match first with
    | .integer n => do
      let _ ← advance
      return .literal (.integer n)
    | .float x => do
      let _ ← advance
      return .literal (.float x)
    | .text s => do
      let _ ← advance
      return .literal (.text s)
    | .keyword .trueLiteral => do
      let _ ← advance
      return .literal (.boolean true)
    | .keyword .falseLiteral => do
      let _ ← advance
      return .literal (.boolean false)
    | .keyword .null => do
      let _ ← advance
      return .literal .null
    | .symbol .minus => do
      let _ ← advance
      match second with
      | .integer n => do
        let _ ← advance
        return .literal (.integer (-n))
      | .float x => do
        let _ ← advance
        return .literal (.float (-x))
      | _ =>
        if maxNesting ≤ depth then Parser.refuse .expression
        else do
          let operand ← operandAt steps (depth + 1)
          return .unary .minus operand
    | .keyword .not => do
      let _ ← advance
      let operand ← expressionAt steps depth comparisonPrecedence
      return .unary .not operand
    | .symbol .leftParen => do
      let _ ← advance
      let expression ← expressionAt steps depth 1
      expectSymbol .rightParen
      return expression
    | .keyword keyword =>
      match aggregateFunction? keyword, second with
      | some function, .symbol .leftParen =>
        aggregateCall (expressionAt steps depth) function
      | _, _ => do
        let column ← name
        return .column column
    | .name s =>
      if second = .symbol .leftParen then
        functionCall (expressionAt steps depth) (operandAt steps depth) s
      else do
        let column ← name
        return .column column
    | _ => do
      let column ← name
      return .column column

end

/-- A whole expression. -/
def expression : Parser Expr :=
  fun tokens => expressionAt (2 * tokens.length + 2) 0 1 tokens

end Grammar

end Relational
