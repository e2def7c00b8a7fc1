import Relational.Decimal.Text
import Relational.Json.Basic

/-!
# Numbers in JSON

Integers are written as they are.  A float is written with the fewest digits
that determine it, positionally from `0.00001` up to sixteen digits in front of
the point, and always with a fraction or an exponent, so that it is not taken
for an integer.

Reading takes a numeral without fraction and exponent for an integer if it fits
64 bits.  Any other numeral is a float: its leading digits, as many as fit 64
bits, are scaled by one power of ten.  This is not always the nearest float.
-/

namespace Relational

namespace Numeral

/-- The numeral of an integer. -/
def ofInt (n : Int) : Numeral :=
  ⟨n < 0, Nat.toDigits 10 n.natAbs, [], none⟩

/-- The numeral of a decimal with `point` digits in front of the point; a
negative count means zeros behind it. -/
def layOut (negative : Bool) (digits : List Char) (point : Int) : Numeral :=
  if digits.length ≤ point ∧ point ≤ 16 then
    ⟨negative, digits ++ List.replicate (point.toNat - digits.length) '0', ['0'], none⟩
  else if 0 < point ∧ point ≤ 16 then
    ⟨negative, digits.take point.toNat, digits.drop point.toNat, none⟩
  else if -5 < point ∧ point ≤ 0 then
    ⟨negative, ['0'], List.replicate (-point).toNat '0' ++ digits, none⟩
  else
    ⟨negative, digits.take 1, digits.drop 1, some (point - 1)⟩

/-- The numeral of a finite float. -/
def ofBinary64 (x : Binary64) : Numeral :=
  if x.magnitude = 0 then ⟨x.isNegative, ['0'], ['0'], none⟩
  else
    let decimal := Decimal.shortest .toEven x
    let digits := Nat.toDigits 10 decimal.digits
    layOut (x.isNegative) digits (digits.length + decimal.exponent)

/-- The integer of a numeral without fraction and exponent, if it fits 64 bits.
A negative zero is not an integer. -/
def integer? (numeral : Numeral) : Option Int64 :=
  let magnitude : Int := Decimal.valueOf numeral.whole
  if numeral.fraction ≠ [] ∨ numeral.exponent ≠ none then none
  else if numeral.negative then
    if 0 < magnitude ∧ Int64.minValue.toInt ≤ -magnitude then some (Int64.ofInt (-magnitude))
    else none
  else if magnitude ≤ Int64.maxValue.toInt then some (Int64.ofInt magnitude)
  else none

/-- Append digits to a number as long as it fits 64 bits; the digits left over
are returned with it. -/
def gather (significand : Nat) : List Char → Nat × List Char
  | [] => (significand, [])
  | digit :: rest =>
    let longer := significand * 10 + Decimal.valueOf [digit]
    if longer < UInt64.size then gather longer rest else (significand, digit :: rest)

/-- The leading digits of a numeral as one number, and the power of ten that
scales it. -/
def scaled (numeral : Numeral) : Nat × Int :=
  let (leading, wholeLeft) := gather 0 numeral.whole
  let (significand, fractionLeft) := gather leading numeral.fraction
  let fractionTaken : Int := (numeral.fraction.length : Int) - fractionLeft.length
  (significand, wholeLeft.length - fractionTaken + numeral.exponent.getD 0)

/-- The float nearest to a power of ten up to the 308th. -/
def tenTo (power : Nat) : Binary64 :=
  OfScientific.ofScientific 1 false power

/-- A float divided by a power of ten, in steps of at most the 308th. -/
def divideByTenTo (x : Binary64) (power : Nat) : Binary64 :=
  if power ≤ 308 then x / tenTo power
  else if x.magnitude = 0 then x
  else divideByTenTo (x / tenTo 308) (power - 308)
termination_by power

/-- A float of magnitude at least one, or zero, scaled by a power of ten, if
the result is finite. -/
def scale? (x : Binary64) : Int → Option Binary64
  | .ofNat power =>
    if power ≤ 308 then some (x * tenTo power) |>.filter Binary64.isFinite
    else if x.magnitude = 0 then some x
    else none
  | .negSucc power => some (divideByTenTo x (power + 1))

/-- The float of a numeral, unless it is too large. -/
def float? (numeral : Numeral) : Option Binary64 :=
  let (significand, power) := numeral.scaled
  (scale? (Binary64.ofNat significand) power).map fun x => if numeral.negative then -x else x

end Numeral

end Relational
