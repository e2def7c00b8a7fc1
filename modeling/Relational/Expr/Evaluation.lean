import Relational.Calendar.Iso
import Relational.Expr
import Relational.Pattern
import Relational.Schema
import Relational.Value.Arithmetic
import Relational.Value.Coercion
import Relational.Value.Logic

/-!
# Evaluation of expressions

An expression is evaluated in a scope, which knows the values of columns and,
for a group of rows, those of aggregates.  Operands are evaluated from left to
right, and the first error is the result; only `AND`, `OR` and `IN` may stop
before their last operand.
-/

namespace Relational

/-- Where the names of an expression get their values from. -/
structure Scope where
  column : String → Except Error Value
  /-- The value of an aggregate, known only for a group of rows. -/
  aggregate : Expr → Except Error Value
  /-- The moment that `NOW()` denotes. -/
  now : DateTime

namespace Scope

/-- Outside of groups an aggregate has no value. -/
def noAggregate (call : Expr) : Except Error Value :=
  .error (.invalidQuery (.aggregateNotAllowedHere call.text))

/-- The scope of values that may not mention columns. -/
def empty (now : DateTime) (table : String) : Scope where
  column := fun name => .error (.columnNotFound table name)
  aggregate := noAggregate
  now := now

/-- The scope of one row of a table.  A column beyond the end of the row is
unknown. -/
def ofRow (now : DateTime) (schema : Schema) (row : Row) : Scope where
  column := fun name =>
    match (schema.position? name).bind fun position => row[position]? with
    | some value => .ok value
    | none => .error (.columnNotFound schema.name name)
  aggregate := noAggregate
  now := now

end Scope

namespace BinaryOperator

/-- The orders in which a comparison holds. -/
def holds? : BinaryOperator → Option (Ordering → Bool)
  | .equal => some (· == .eq)
  | .notEqual => some (· != .eq)
  | .less => some (· == .lt)
  | .lessEqual => some (· != .gt)
  | .greater => some (· == .gt)
  | .greaterEqual => some (· != .lt)
  | _ => none

/-- The arithmetic operation of an operator. -/
def arithmetic? : BinaryOperator → Option Arithmetic
  | .add => some .add
  | .subtract => some .subtract
  | .multiply => some .multiply
  | .divide => some .divide
  | _ => none

end BinaryOperator

namespace IntervalUnit

/-- The moment some units of time earlier, or later if the amount is
negative. -/
def subtract? (unit : IntervalUnit) (moment : DateTime) (amount : Int) : Option DateTime :=
  match unit with
  | .minute => moment.subtractSeconds? (amount * 60)
  | .hour => moment.subtractSeconds? (amount * 3600)
  | .day => moment.subtractSeconds? (amount * 86400)
  | .week => moment.subtractSeconds? (amount * 604800)
  | .month => moment.subtractMonths? amount
  | .year => moment.subtractMonths? (amount * 12)

end IntervalUnit

namespace Value

/-- The moment that a text denotes. -/
def moment? (value : Value) : Option DateTime :=
  value.asText?.bind DateTime.ofIso?

/-- Whether a value matches a pattern; numbers and truth values are matched as
they are displayed. -/
def likeness (value pattern : Value) (negated : Bool) : Except Error Value :=
  match value, pattern with
  | .null, _ => .ok .null
  | _, .null => .ok .null
  | value, .text p => .ok (.boolean ((Pattern.compile p).accepts value.display != negated))
  | _, pattern => .error (.typeMismatch (.patternNotText pattern))

/-- Whether a value lies between two others, ends included. -/
def betweenness (value low high : Value) (negated : Bool) : Except Error Value := do
  let fromLow ← value.comparison low
  let toHigh ← value.comparison high
  let inside := conjunction (fromLow.map (· != .lt)) (toHigh.map (· != .gt))
  return ofTruth (inside.map (· != negated))

/-- The moment some units of time before the one that a value denotes, as a
text; null if there is no such moment. -/
def dateSub (base amount : Value) (unit : IntervalUnit) : Except Error Value :=
  match base.moment? with
  | none => .ok .null
  | some moment =>
    match amount.convert? .integer with
    | some (.integer n) =>
      match unit.subtract? moment n.toInt with
      | some earlier => .ok (.text earlier.iso)
      | none => .ok .null
    | some _ => .ok .null
    | none => .error (.typeMismatch (.amountNotInteger amount))

/-- The part of a moment that a function of one argument extracts. -/
def datePart (function : ScalarFunction) (moment : DateTime) : Value :=
  match function with
  | .year => .integer (Int64.ofInt moment.date.year)
  | .month => .integer (Int64.ofNat moment.date.month)
  | .day => .integer (Int64.ofNat moment.date.day)
  | .dayName => .text moment.date.weekdayName
  | .dayOfWeek => .integer (Int64.ofNat (moment.date.weekday + 1))
  | .now => .null
  | .dateSub => .null

end Value

namespace Expr

/-- The result of an operator other than `AND` and `OR`. -/
def operate (op : BinaryOperator) (left right : Value) : Except Error Value :=
  match op.holds? with
  | some holds => do
    let order ← left.comparison right
    return Value.ofTruth (order.map holds)
  | none =>
    match op.arithmetic? with
    | some operation => operation.apply left right
    | none => .ok .null

mutual

/-- The value of an expression. -/
def evaluate (scope : Scope) : Expr → Except Error Value
  | .column name => scope.column name
  | .literal value => .ok value
  | .binary .and left right => do
    let l ← evaluate scope left
    if l = .boolean false then return .boolean false
    else
      let r ← evaluate scope right
      let a ← l.truth
      let b ← r.truth
      return Value.ofTruth (Value.conjunction a b)
  | .binary .or left right => do
    let l ← evaluate scope left
    if l = .boolean true then return .boolean true
    else
      let r ← evaluate scope right
      let a ← l.truth
      let b ← r.truth
      return Value.ofTruth (Value.disjunction a b)
  | .binary op left right => do
    let l ← evaluate scope left
    let r ← evaluate scope right
    operate op l r
  | .unary .not operand => do
    let value ← evaluate scope operand
    let outcome ← value.truth
    return Value.ofTruth (outcome.map (!·))
  | .unary .minus operand => do
    let value ← evaluate scope operand
    Arithmetic.negate value
  | .aggregate function argument distinct =>
    scope.aggregate (.aggregate function argument distinct)
  | .call .now _ => .ok (.text scope.now.iso)
  | .call .dateSub [base, .interval amount unit] => do
    let start ← evaluate scope base
    if start.moment?.isNone then return .null
    else
      let n ← evaluate scope amount
      start.dateSub n unit
  | .call .dateSub [base, amount] => do
    let start ← evaluate scope base
    if start.moment?.isNone then return .null
    else
      let n ← evaluate scope amount
      start.dateSub n .day
  | .call .dateSub _ => .error (.invalidQuery .dateSubArity)
  | .call function [argument] => do
    let value ← evaluate scope argument
    match value.moment? with
    | some moment => return Value.datePart function moment
    | none => return .null
  | .call function _ => .error (.invalidQuery (.unaryFunctionArity function.name))
  | .interval _ _ => .error (.invalidQuery .strayInterval)
  | .isIn operand items negated => do
    let value ← evaluate scope operand
    if value.isNull then return .null
    else membership scope value negated false items
  | .between operand low high negated => do
    let value ← evaluate scope operand
    let lower ← evaluate scope low
    let upper ← evaluate scope high
    value.betweenness lower upper negated
  | .like operand pattern negated => do
    let value ← evaluate scope operand
    let shape ← evaluate scope pattern
    value.likeness shape negated
  | .isNull operand negated => do
    let value ← evaluate scope operand
    return .boolean (value.isNull != negated)
termination_by structural expression => expression

/-- Whether a value equals one of some expressions.  The first equal one ends
the search; without one the result is unknown if a comparison was. -/
def membership (scope : Scope) (value : Value) (negated : Bool) (unknown : Bool) :
    List Expr → Except Error Value
  | [] => .ok (if unknown then .null else .boolean negated)
  | item :: rest => do
    let candidate ← evaluate scope item
    match ← value.comparison candidate with
    | some .eq => return .boolean (!negated)
    | some _ => membership scope value negated unknown rest
    | none => membership scope value negated true rest
termination_by structural items => items

end

/-- Whether a condition is met: only true passes. -/
def isMet (scope : Scope) (condition : Expr) : Except Error Bool := do
  let value ← evaluate scope condition
  let outcome ← value.truth
  return outcome = some true

end Expr

end Relational
