import Relational.Error
import Relational.Unicode.Property
import Relational.Value.Order

/-!
# Conditions and comparisons

Conditions have three outcomes: true, false and unknown, which null stands for.
Comparisons with null are unknown.  Values of different kinds are compared as
numbers where both denote one, and cannot be compared otherwise.
-/

namespace Relational

namespace Value

/-- The outcome of a condition: truth values speak for themselves, integers are
true unless zero, and null is unknown. -/
def truth : Value → Except Error (Option Bool)
  | .boolean b => .ok (some b)
  | .integer n => .ok (some (n ≠ 0))
  | .null => .ok none
  | value => .error (.typeMismatch (.notACondition value))

/-- The value that stands for an outcome. -/
def ofTruth : Option Bool → Value
  | some b => .boolean b
  | none => .null

/-- Both conditions hold; false as soon as one of them is false. -/
def conjunction : Option Bool → Option Bool → Option Bool
  | some false, _ => some false
  | _, some false => some false
  | some true, some true => some true
  | _, _ => none

/-- One of the conditions holds; true as soon as one of them is true. -/
def disjunction : Option Bool → Option Bool → Option Bool
  | some true, _ => some true
  | _, some true => some true
  | some false, some false => some false
  | _, _ => none

/-- The number that a value denotes when it is compared with a value of another
kind: a text is read, and truth counts as one. -/
def comparisonNumber? : Value → Option Binary64
  | .text s => Decimal.readFloat? (Unicode.trim s)
  | .boolean b => some (if b then 1.0 else 0.0)
  | value => value.asFloat?

/-- The order of two values of different kinds, as numbers. -/
def compareAsNumbers? (left right : Value) : Option (Option Ordering) :=
  match left.comparisonNumber?, right.comparisonNumber? with
  | some x, some y => some (Binary64.compare? x y)
  | _, _ => none

/-- The order of two values in a condition, unknown if one of them is null or
NaN. -/
def comparison (left right : Value) : Except Error (Option Ordering) :=
  if left.isNull || right.isNull then .ok none
  else
    match left.compare? right with
    | some order => .ok (some order)
    | none =>
      match left.compareAsNumbers? right with
      | some order => .ok order
      | none => .error (.typeMismatch (.notComparable left right))

end Value

end Relational
