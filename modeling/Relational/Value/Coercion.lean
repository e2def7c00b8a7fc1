import Relational.Unicode.Property
import Relational.Error

/-!
# Coercion to a column's type

A value enters a column through a coercion that never changes what it denotes
as far as the column's type can tell: numeric texts become numbers, integral
floats become integers, and the numbers 0 and 1 and the words for truth become
truth values.  Null enters every column.
-/

namespace Relational

/-- A text with its ASCII letters in lower case. -/
def lowerAscii (s : String) : String :=
  String.ofList (s.toList.map Char.toLower)

namespace Value

/-- The integer of an integral float between `-2 ^ 63` and `2 ^ 63`, ends
included; the upper end is cut to the greatest 64-bit integer. -/
def integerOfFloat? (x : Binary64) : Option Int64 :=
  match x.toInt? with
  | some n =>
    if Int64.minValue.toInt ≤ n ∧ n ≤ Int64.maxValue.toInt then some (Int64.ofInt n)
    else if n = Int64.maxValue.toInt + 1 then some Int64.maxValue
    else none
  | none => none

/-- The integer that a text spells, as an integer or else as an integral
float. -/
def integerOfText? (s : String) : Option Int64 :=
  let spelled := Unicode.trim s
  match Decimal.readInt64? spelled with
  | some n => some n
  | none => (Decimal.readFloat? spelled).bind integerOfFloat?

/-- The finite float that a text spells. -/
def floatOfText? (s : String) : Option Binary64 :=
  (Decimal.readFloat? (Unicode.trim s)).filter Binary64.isFinite

/-- The truth value that a text spells, in any mix of cases. -/
def booleanOfText? (s : String) : Option Bool :=
  if lowerAscii s = "true" then some true
  else if lowerAscii s = "false" then some false
  else none

/-- The value of a column type that a value stands for, if it stands for one. -/
def convert? (type : ColumnType) : Value → Option Value
  | .null => some .null
  | .integer n =>
    match type with
    | .integer => some (.integer n)
    | .float => some (.float (Binary64.ofInt64 n))
    | .boolean => if n = 0 then some (.boolean false)
      else if n = 1 then some (.boolean true)
      else none
    | .text => none
  | .float x =>
    match type with
    | .integer => (integerOfFloat? x).map .integer
    | .float => some (.float x)
    | _ => none
  | .text s =>
    match type with
    | .integer => (integerOfText? s).map .integer
    | .float => (floatOfText? s).map .float
    | .text => some (.text s)
    | .boolean => (booleanOfText? s).map .boolean
  | .boolean b =>
    match type with
    | .boolean => some (.boolean b)
    | _ => none

/-- The value as the content of a column, or the type error that names the
column. -/
def coerce (value : Value) (type : ColumnType) (column : String) : Except Error Value :=
  match value.convert? type with
  | some converted => .ok converted
  | none => .error (.typeMismatch (.cannotConvert value type column))

end Value

end Relational
