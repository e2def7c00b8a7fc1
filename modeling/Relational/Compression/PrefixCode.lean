import Relational.Compression.Unpacking

/-!
# Prefix codes

A prefix code is given by the length of each symbol's code.  Codes of one length
are consecutive numbers in the order of their symbols, and shorter codes come
before longer ones.
-/

namespace Relational

namespace Compression

/-- A prefix code over symbols that are numbers. -/
inductive PrefixCode where
  /-- One symbol takes no bits. -/
  | constant (symbol : Nat)
  /-- How many codes there are of each length, from one bit on, and the symbols
  in the order of their codes. -/
  | canonical (counts : List Nat) (symbols : Array Nat)

namespace PrefixCode

/-- The greatest length of a code. -/
def longest : Nat := 15

/-- The symbols whose codes have a length. -/
def symbolsOf (lengths : List Nat) (length : Nat) : List Nat :=
  (lengths.zipIdx.filter fun entry => entry.1 = length).map Prod.snd

/-- The code in which each symbol has a given length, zero for none. -/
def ofLengths (lengths : List Nat) : PrefixCode :=
  let groups := (List.range longest).map fun shorter => symbolsOf lengths (shorter + 1)
  .canonical (groups.map List.length) groups.flatten.toArray

/-- How many symbols of a list of lengths have a code. -/
def codedCount (lengths : List Nat) : Nat :=
  lengths.countP fun length => length ≠ 0

/-- Whether every sequence of bits starts with a code. -/
def isComplete (lengths : List Nat) : Bool :=
  (lengths.filter fun length => length ≠ 0).foldl
    (fun filled length => filled + (1 <<< (longest - length))) 0 = 1 <<< longest

/-- Find the code that comes next, given its place among the codes of the length
read so far and the number of shorter ones. -/
def walk (symbols : Array Nat) : List Nat → Nat → Nat → Unpacking Nat
  | [], _, _ => throw .invalid
  | count :: counts, place, shorter => do
    let place := 2 * place + (← Unpacking.bit).toNat
    if place < count then return symbols.getD (shorter + place) 0
    else walk symbols counts (place - count) (shorter + count)

/-- The symbol whose code comes next. -/
def next : PrefixCode → Unpacking Nat
  | .constant symbol => return symbol
  | .canonical counts symbols => walk symbols counts 0 0

end PrefixCode

end Compression

end Relational
