import Relational.Binary64

/-!
# Shortest decimals

Every finite number is read back from any decimal in an interval around it.
The decimal chosen to write it is the point of that interval which lies on the
coarsest decimal grid (multiples of `10 ^ k` with the greatest `k`), and among
the points of that grid the nearest.  Everything is decided in exact natural
number arithmetic.
-/

namespace Relational

/-- The decimal `digits * 10 ^ exponent`. -/
structure Decimal where
  digits : Nat
  exponent : Int
deriving DecidableEq, Repr

namespace Decimal

/-- What to do when the number lies half way between two points of the grid. -/
inductive TieRule where
  | up
  | toEven
deriving DecidableEq, Repr

/-- Whether a tie between `lower` and `lower + 1` goes to the upper one. -/
def TieRule.goesUp (tie : TieRule) (lower : Nat) : Bool :=
  match tie with
  | .up => true
  | .toEven => lower % 2 == 1

/-- A finite positive number with the interval that reads back to it, in
quarters of its last place: the number is `4 * significand` quarters, and a
quarter is `2 ^ (exponent - 2)`. -/
structure Target where
  significand : Nat
  exponent : Int
  /-- The gap below a power of two is half as wide as the gap above it. -/
  lowerGap : Nat

namespace Target

/-- The interval around a finite number's magnitude. -/
def ofBinary64 (x : Binary64) : Target where
  significand := x.significand
  exponent := x.exponent
  lowerGap :=
    if x.significand = 0x10000000000000 ∧ -1074 < x.exponent then 1 else 2

/-- The denominator shared by the interval and the grid of multiples of
`10 ^ k`, as the numerator of one grid step. -/
def gridStep (target : Target) (k : Int) : Nat :=
  Nat.pow 10 k.toNat <<< (2 - target.exponent).toNat

/-- The numerator of a number of quarters over the shared denominator. -/
def scaled (target : Target) (k : Int) (quarters : Nat) : Nat :=
  (quarters <<< (target.exponent - 2).toNat) * Nat.pow 10 (-k).toNat

/-- Whether the grid point `point * 10 ^ k` reads back to the number.  The ends
of the interval belong to it exactly when the significand is even. -/
def accepts (target : Target) (k : Int) (point : Nat) : Bool :=
  let position := point * target.gridStep k
  let lower := target.scaled k (4 * target.significand - target.lowerGap)
  let upper := target.scaled k (4 * target.significand + 2)
  if target.significand % 2 = 0 then
    lower ≤ position && position ≤ upper
  else
    lower < position && position < upper

/-- The nearest point of the grid of multiples of `10 ^ k` that reads back to
the number, if one does.  Only the two neighbours of the number can. -/
def nearest? (tie : TieRule) (target : Target) (k : Int) : Option Nat :=
  let step := target.gridStep k
  let value := target.scaled k (4 * target.significand)
  let lower := value / step
  let remainder := value % step
  match target.accepts k lower, target.accepts k (lower + 1) with
  | false, false => none
  | true, false => some lower
  | false, true => some (lower + 1)
  | true, true =>
    if 2 * remainder < step then some lower
    else if step < 2 * remainder then some (lower + 1)
    else if tie.goesUp lower then some (lower + 1)
    else some lower

/-- Try ever finer grids, starting at multiples of `10 ^ k`. -/
def refine (tie : TieRule) (target : Target) : Nat → Int → Decimal
  | 0, k => ⟨target.scaled k (4 * target.significand) / target.gridStep k, k⟩
  | finer + 1, k =>
    match target.nearest? tie k with
    | some point => ⟨point, k⟩
    | none => refine tie target finer (k - 1)

/-- A grid so coarse that at most one of its points is below twice the number. -/
def coarsest (target : Target) : Int :=
  ((target.significand.log2 : Int) + target.exponent) * 30103 / 100000 + 1

end Target

/-- The decimal that writes the magnitude of a finite number other than zero.
Seventeen digits always suffice, and the coarsest grid leaves two to spare. -/
def shortest (tie : TieRule) (x : Binary64) : Decimal :=
  let target := Target.ofBinary64 x
  target.refine tie 20 target.coarsest

end Decimal

end Relational
