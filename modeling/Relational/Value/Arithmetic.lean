import Relational.Error
import Relational.Unicode.Property

/-!
# Arithmetic

Integers are added, subtracted and multiplied exactly or not at all; every
other operation is carried out on floats.  A quotient is always a float, and a
division by zero yields null.
-/

namespace Relational

/-- The arithmetic operations. -/
inductive Arithmetic where
  | add
  | subtract
  | multiply
  | divide
deriving DecidableEq, Repr

namespace Arithmetic

/-- The sign of an operation. -/
def sign : Arithmetic → String
  | .add => "+"
  | .subtract => "-"
  | .multiply => "*"
  | .divide => "/"

/-- The operation on floats; there is no quotient by zero. -/
def onFloats (operation : Arithmetic) (x y : Binary64) : Value :=
  match operation with
  | .add => .float (x + y)
  | .subtract => .float (x - y)
  | .multiply => .float (x * y)
  | .divide => if y.magnitude = 0 then .null else .float (x / y)

/-- A 64-bit integer as a value, or the error of an operation that left the
range. -/
def exact (operation : Arithmetic) (n : Int) : Except Error Value :=
  if Int64.minValue.toInt ≤ n ∧ n ≤ Int64.maxValue.toInt then .ok (.integer (Int64.ofInt n))
  else .error (.invalidQuery (.integerOverflowIn operation.sign))

/-- The operation on integers. -/
def onIntegers (operation : Arithmetic) (m n : Int64) : Except Error Value :=
  match operation with
  | .add => operation.exact (m.toInt + n.toInt)
  | .subtract => operation.exact (m.toInt - n.toInt)
  | .multiply => operation.exact (m.toInt * n.toInt)
  | .divide => .ok (onFloats .divide (Binary64.ofInt64 m) (Binary64.ofInt64 n))

/-- A number as an operand: an integer or a float. -/
inductive Operand where
  | integer (n : Int64)
  | float (x : Binary64)

namespace Operand

/-- The float nearest to an operand. -/
def toBinary64 : Operand → Binary64
  | .integer n => Binary64.ofInt64 n
  | .float x => x

/-- The number that a value denotes in arithmetic: a text is read, as an
integer if it spells one. -/
def ofValue : Value → Except Error Operand
  | .integer n => .ok (.integer n)
  | .float x => .ok (.float x)
  | .text s =>
    let spelled := Unicode.trim s
    match Decimal.readInt64? spelled with
    | some n => .ok (.integer n)
    | none =>
      match Decimal.readFloat? spelled with
      | some x => .ok (.float x)
      | none => .error (.typeMismatch (.notArithmetic (.text s)))
  | value => .error (.typeMismatch (.notArithmetic value))

end Operand

/-- The result of an operation on two values, null if one of them is null. -/
def apply (operation : Arithmetic) (left right : Value) : Except Error Value :=
  if left.isNull || right.isNull then .ok .null
  else do
    let x ← Operand.ofValue left
    let y ← Operand.ofValue right
    match x, y with
    | .integer m, .integer n => operation.onIntegers m n
    | x, y => .ok (operation.onFloats x.toBinary64 y.toBinary64)

/-- A number with its sign reversed. -/
def negate : Value → Except Error Value
  | .integer n =>
    if n = Int64.minValue then .error (.invalidQuery .integerOverflow) else .ok (.integer (-n))
  | .float x => .ok (.float (-x))
  | .null => .ok .null
  | value => .error (.typeMismatch (.cannotNegate value))

end Arithmetic

end Relational
