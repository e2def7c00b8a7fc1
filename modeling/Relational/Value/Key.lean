import Relational.Value.Basic

/-!
# Keys

Indexes, grouping and duplicate elimination replace equality of values by
equality of keys.  Null has no key.  A float that is an integer of the 64-bit
range (its lower end excepted) has the key of that integer, negative zero
included; any other float is its own key, down to the bits.
-/

namespace Relational

/-- What an index files a value under. -/
inductive Key where
  | integer (n : Int64)
  | float (x : Binary64)
  | boolean (b : Bool)
  | text (s : String)
deriving DecidableEq, Inhabited

namespace Key

/-- The integer whose key a float shares: integral, with a magnitude below
`2 ^ 63`. -/
def foldedInteger? (x : Binary64) : Option Int64 :=
  match x.toInt? with
  | some n => if n.natAbs < 0x8000000000000000 then some (Int64.ofInt n) else none
  | none => none

/-- The key of a float. -/
def ofBinary64 (x : Binary64) : Key :=
  match foldedInteger? x with
  | some n => .integer n
  | none => .float x

/-- The key of a value other than null. -/
def ofValue? : Value → Option Key
  | .null => none
  | .integer n => some (.integer n)
  | .float x => some (ofBinary64 x)
  | .boolean b => some (.boolean b)
  | .text s => some (.text s)

end Key

end Relational
