import Relational.Decimal.Shortest

/-!
# Plain decimal text

Numbers are written for people without an exponent and without a fraction that
is zero: `100`, `0.0000001`, `-0`.  The other direction reads the spellings a
typed cell may hold: an optional sign, digits with an optional point, an
optional power of ten, and the names of infinity and NaN.
-/

namespace Relational

namespace Decimal

/-- A point inserted before the last `places` digits, with zeros in front as
far as they are needed. -/
def pointed (digits : List Char) (places : Nat) : List Char :=
  let padded := List.replicate (places + 1 - digits.length) '0' ++ digits
  let whole := padded.length - places
  padded.take whole ++ '.' :: padded.drop whole

/-- A decimal written out in full, without exponent; a fraction appears only
if the decimal has one. -/
def positional (decimal : Decimal) : List Char :=
  let digits := Nat.toDigits 10 decimal.digits
  match decimal.exponent with
  | .ofNat zeros => digits ++ List.replicate zeros '0'
  | .negSucc places => pointed digits (places + 1)

/-- The text of a number in messages, expression texts and tables: the shortest
digits that read back, of two equally near ones the upper, never an exponent. -/
def plain (x : Binary64) : String :=
  if x.isNaN then "NaN"
  else
    let sign := if x.isNegative then ['-'] else []
    let magnitude :=
      if x.isFinite then
        if x.magnitude = 0 then ['0'] else positional (shortest .up x)
      else ['i', 'n', 'f']
    String.ofList (sign ++ magnitude)

/-- The value of a list of decimal digits. -/
def valueOf (digits : List Char) : Nat :=
  Nat.ofDigitChars 10 digits 0

/-- The number nearest to `digits * 10 ^ exponent`, ties to even.  Powers far
outside the range are settled by the count of digits alone. -/
def nearest (digits : List Char) (exponent : Int) : Binary64 :=
  let significant := digits.dropWhile (· == '0')
  if significant.isEmpty then 0.0
  else
    let decade := (significant.length : Int) + exponent
    if 310 < decade then Binary64.infinity
    else if decade < -330 then 0.0
    else OfScientific.ofScientific (valueOf significant) (exponent < 0) exponent.natAbs

/-- An optional sign in front of a numeral: whether it is negative, and what
follows. -/
def splitSign : List Char → Bool × List Char
  | '-' :: rest => (true, rest)
  | '+' :: rest => (false, rest)
  | rest => (false, rest)

/-- The exponent part of a numeral, which has to end the text: nothing, or `e`
with an optional sign and at least one digit. -/
def readExponent? : List Char → Option Int
  | [] => some 0
  | mark :: rest =>
    let (negative, digits) := splitSign rest
    if (mark == 'e' || mark == 'E') && !digits.isEmpty && digits.all Char.isDigit then
      let value : Int := valueOf digits
      some (if negative then -value else value)
    else
      none

/-- The spellings of infinity and NaN, in any mix of cases. -/
def readName? (text : List Char) : Option Binary64 :=
  let folded := text.map Char.toLower
  if folded == "inf".toList || folded == "infinity".toList then some Binary64.infinity
  else if folded == "nan".toList then some Binary64.nan
  else none

/-- A numeral without sign: digits around an optional point, at least one of
them, then an optional exponent. -/
def readUnsigned? (text : List Char) : Option Binary64 :=
  let whole := text.takeWhile Char.isDigit
  let afterWhole := text.dropWhile Char.isDigit
  let (fraction, tail) :=
    match afterWhole with
    | '.' :: rest => (rest.takeWhile Char.isDigit, rest.dropWhile Char.isDigit)
    | rest => ([], rest)
  if whole.isEmpty && fraction.isEmpty then readName? text
  else
    (readExponent? tail).map fun exponent =>
      nearest (whole ++ fraction) (exponent - fraction.length)

/-- The number that a text spells, rounded to nearest; too large a numeral is
an infinity. -/
def readFloat? (text : String) : Option Binary64 :=
  let (negative, rest) := splitSign text.toList
  (readUnsigned? rest).map fun x => if negative then -x else x

/-- The integer that an optional sign and at least one digit spell, if it fits
64 bits. -/
def readInt64? (text : String) : Option Int64 :=
  let (negative, digits) := splitSign text.toList
  if digits.isEmpty || !digits.all Char.isDigit then none
  else
    let magnitude : Int := valueOf digits
    let value := if negative then -magnitude else magnitude
    if Int64.minValue.toInt ≤ value ∧ value ≤ Int64.maxValue.toInt then some (Int64.ofInt value)
    else none

end Decimal

end Relational
