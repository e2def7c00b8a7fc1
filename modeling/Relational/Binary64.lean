/-!
# Binary64 numbers

A number is the 64-bit word that stores it: a sign bit over a magnitude of 63
bits.  Everything the engine needs to know exactly about a number, its order,
whether it is an integer and which one, is computed from that word in natural
numbers.  Only the rounding of results is left to the arithmetic of `Float`.

Words above the infinities are NaNs.  A NaN goes through arithmetic with its
bits; of two operands that are NaNs the first one does.
-/

namespace Relational

/-- A binary64 number, given by its word. -/
structure Binary64 where
  bits : UInt64
deriving DecidableEq, Inhabited

namespace Binary64

/-- The word without its sign bit.  Larger magnitudes have larger words. -/
def magnitude (x : Binary64) : Nat :=
  x.bits.toNat % 0x8000000000000000

/-- The sign bit, set for negative numbers and for negative zero. -/
def isNegative (x : Binary64) : Bool :=
  0x8000000000000000 ≤ x.bits.toNat

/-- The magnitude of both infinities: all exponent bits set, no fraction. -/
def infiniteMagnitude : Nat :=
  0x7FF0000000000000

/-- Words above the infinities denote no number. -/
def isNaN (x : Binary64) : Bool :=
  infiniteMagnitude < x.magnitude

/-- Finite numbers lie below the infinities. -/
def isFinite (x : Binary64) : Bool :=
  x.magnitude < infiniteMagnitude

/-- The integer factor of a finite number's magnitude
`significand x * 2 ^ exponent x`. -/
def significand (x : Binary64) : Nat :=
  let fraction : Nat := x.magnitude % 0x10000000000000
  if x.magnitude < 0x10000000000000 then fraction else 0x10000000000000 + fraction

/-- The power of two that scales a finite number's significand. -/
def exponent (x : Binary64) : Int :=
  let field : Nat := x.magnitude / 0x10000000000000
  if field = 0 then -1074 else (field : Int) - 1075

/-! ### Order -/

/-- Numbers other than NaN are ordered by this key, which gives both zeros the
same place. -/
def orderKey (x : Binary64) : Int :=
  if x.isNegative then -(x.magnitude : Int) else (x.magnitude : Int)

/-- The numeric order; NaN is not comparable with anything. -/
def compare? (x y : Binary64) : Option Ordering :=
  if x.isNaN || y.isNaN then none else some (compare x.orderKey y.orderKey)

/-- Numeric equality: the zeros are equal, and NaN equals nothing. -/
def equal (x y : Binary64) : Bool :=
  compare? x y == some .eq

/-! ### Integers -/

/-- The natural number that a finite magnitude denotes, if it denotes one. -/
def integralMagnitude? (x : Binary64) : Option Nat :=
  match x.exponent with
  | .ofNat scale => some (x.significand <<< scale)
  | .negSucc scale =>
    if x.significand % (1 <<< (scale + 1)) = 0 then
      some (x.significand >>> (scale + 1))
    else
      none

/-- The integer that a number denotes exactly, if it denotes one. -/
def toInt? (x : Binary64) : Option Int :=
  if x.isFinite then
    x.integralMagnitude?.map fun n => if x.isNegative then -(n : Int) else (n : Int)
  else
    none

/-! ### Rounding -/

/-- The word of a rounded result. -/
def ofFloat (x : Float) : Binary64 :=
  ⟨x.toBits⟩

/-- The number as an operand of rounded arithmetic. -/
def toFloat (x : Binary64) : Float :=
  Float.ofBits x.bits

/-- The number nearest to a 64-bit integer, ties to even. -/
def ofInt64 (n : Int64) : Binary64 :=
  ofFloat (Float.ofInt n.toInt)

/-- The number nearest to a natural number, ties to even. -/
def ofNat (n : Nat) : Binary64 :=
  ofFloat (Float.ofNat n)

/-- A decimal numeral denotes the number nearest to it, ties to even. -/
instance : OfScientific Binary64 where
  ofScientific digits negative power := ofFloat (Float.ofScientific digits negative power)

/-! ### Special numbers -/

/-- Positive infinity. -/
def infinity : Binary64 :=
  ⟨0x7FF0000000000000⟩

/-- The NaN that is written by name. -/
def nan : Binary64 :=
  ⟨0x7FF8000000000000⟩

/-- The NaN that results where numbers have no result, as in the difference of
an infinity with itself. -/
def invalid : Binary64 :=
  ⟨0xFFF8000000000000⟩

/-- A NaN as it leaves an operation: its quiet bit is set. -/
def quiet (x : Binary64) : Binary64 :=
  ⟨x.bits ||| 0x0008000000000000⟩

/-! ### Arithmetic -/

/-- Carry out a rounded operation.  The first NaN among the operands is its
result. -/
def combine (operation : Float → Float → Float) (x y : Binary64) : Binary64 :=
  if x.isNaN then x.quiet
  else if y.isNaN then y.quiet
  else
    let result := ofFloat (operation x.toFloat y.toFloat)
    if result.isNaN then invalid else result

instance : Add Binary64 := ⟨combine (· + ·)⟩

instance : Sub Binary64 := ⟨combine (· - ·)⟩

instance : Mul Binary64 := ⟨combine (· * ·)⟩

instance : Div Binary64 := ⟨combine (· / ·)⟩

/-- Negation reverses the sign bit, that of a NaN too. -/
instance : Neg Binary64 := ⟨fun x => ⟨x.bits ^^^ 0x8000000000000000⟩⟩

end Binary64

end Relational
