import Relational.Value.Basic

/-!
# Orders on cell values

Two values of one kind, and integers with floats, are comparable.  Sorting
extends that partial order by the rank of a value's kind, so that nulls come
first, then numbers, then truth values, then texts.
-/

namespace Relational

/-- Texts are ordered by their code points, which is also the order of their
UTF-8 encodings. -/
def compareText (s t : String) : Ordering :=
  compareOfLessAndEq s t

/-- False before true. -/
def compareBool (a b : Bool) : Ordering :=
  compare a.toNat b.toNat

namespace Value

/-- The order of two values where they have one.  An integer is compared with a
float as the nearest float. -/
def compare? : Value → Value → Option Ordering
  | .integer m, .integer n => some (compare m.toInt n.toInt)
  | .float x, .float y => Binary64.compare? x y
  | .text s, .text t => some (compareText s t)
  | .boolean a, .boolean b => some (compareBool a b)
  | .integer m, .float y => Binary64.compare? (Binary64.ofInt64 m) y
  | .float x, .integer n => Binary64.compare? x (Binary64.ofInt64 n)
  | _, _ => none

/-- The place of a value's kind in a sorted column. -/
def rank : Value → Nat
  | .null => 0
  | .integer _ => 1
  | .float _ => 1
  | .boolean _ => 2
  | .text _ => 3

/-- The order of sorted columns: comparable values by their order, all others
by the rank of their kinds. -/
def sortCompare (a b : Value) : Ordering :=
  match a.compare? b with
  | some order => order
  | none => compare a.rank b.rank

end Value

end Relational
