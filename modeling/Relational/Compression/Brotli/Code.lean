import Relational.Compression.PrefixCode

/-!
# Codes of Brotli streams

A Brotli stream tells each of its prefix codes.  A code with up to four symbols
names them; any other one is told by the lengths of its symbols' codes, which
are written in a code for lengths of their own.  A context map says which of
several codes is in use in each context.
-/

namespace Relational

namespace Compression

namespace Brotli

/-- A number up to 255 behind its own width. -/
def smallNumber : Unpacking Nat := do
  if ← Unpacking.bit then
    let width ← Unpacking.number 3
    return (1 <<< width) + (← Unpacking.number width)
  else return 0

/-- The number that a symbol stands for by a table of least numbers and of
widths of what is added. -/
def readExtended (table : List (Nat × Nat)) (symbol : Nat) : Unpacking Nat := do
  match table[symbol]? with
  | some (least, width) => return least + (← Unpacking.number width)
  | none => throw .invalid

/-! ### Named symbols -/

/-- The width in which a symbol of an alphabet is named. -/
def symbolWidth (alphabet : Nat) : Nat :=
  if alphabet ≤ 1 then 0 else (alphabet - 1).log2 + 1

/-- The code with lengths for some symbols only. -/
def codeOfPairs (pairs : List (Nat × Nat)) : PrefixCode :=
  let alphabet := (pairs.map Prod.fst).foldl max 0 + 1
  PrefixCode.ofLengths ((List.range alphabet).map fun symbol => (pairs.lookup symbol).getD 0)

/-- Read a code that names its symbols. -/
def readNamedCode (alphabet : Nat) : Unpacking PrefixCode := do
  let count := (← Unpacking.number 2) + 1
  let symbols ← (List.range count).mapM fun _ => do
    let symbol ← Unpacking.number (symbolWidth alphabet)
    Unpacking.require (symbol < alphabet)
    return symbol
  Unpacking.require (symbols.eraseDups.length = count)
  match symbols with
  | [symbol] => return .constant symbol
  | [_, _] => return codeOfPairs (symbols.zip [1, 1])
  | [_, _, _] => return codeOfPairs (symbols.zip [1, 2, 2])
  | _ =>
    if ← Unpacking.bit then return codeOfPairs (symbols.zip [1, 2, 3, 3])
    else return codeOfPairs (symbols.zip [2, 2, 2, 2])

/-! ### The code for lengths -/

/-- The order in which the lengths are told of the code for lengths. -/
def lengthOrder : List Nat :=
  [1, 2, 3, 4, 0, 5, 17, 6, 16, 7, 8, 9, 10, 11, 12, 13, 14, 15]

/-- The lengths in the code for lengths are written in this code. -/
def readLength : Unpacking Nat := do
  match ← Unpacking.number 2 with
  | 0 => return 0
  | 1 => return 4
  | 2 => return 3
  | _ =>
    if ← Unpacking.bit then
      if ← Unpacking.bit then return 5 else return 1
    else return 2

/-- Read the lengths of some symbols of the code for lengths, up to the symbol
that completes it.  Codes fill the space of 32 codes of five bits. -/
def readLengthsOfLengths :
    List Nat → Nat → List (Nat × Nat) → Unpacking (Nat × List (Nat × Nat))
  | [], filled, told => return (filled, told)
  | symbol :: symbols, filled, told => do
    let length ← readLength
    if length = 0 then readLengthsOfLengths symbols filled told
    else
      let filled := filled + (1 <<< (5 - length))
      let told := (symbol, length) :: told
      if 32 ≤ filled then return (filled, told)
      else readLengthsOfLengths symbols filled told

/-- Read the code for lengths.  It is complete, or it has one symbol. -/
def readCodeForLengths (skipped : Nat) : Unpacking PrefixCode := do
  let (filled, told) ← readLengthsOfLengths (lengthOrder.drop skipped) 0 []
  match told with
  | [(symbol, _)] => return .constant symbol
  | _ =>
    Unpacking.require (filled = 32)
    return codeOfPairs told

/-! ### Lengths of codes -/

/-- The lengths read so far of a code. -/
structure Lengths where
  /-- The lengths, the last one first. -/
  known : List Nat
  count : Nat
  /-- How many codes of fifteen bits there is room for. -/
  space : Int
  /-- The last length other than zero. -/
  lastCoded : Nat
  /-- The length that was repeated last, and how often it has been so far. -/
  repeated : Nat
  times : Nat

namespace Lengths

/-- No lengths. -/
def start : Lengths :=
  ⟨[], 0, 32768, 8, 0, 0⟩

/-- The room that codes of a length take. -/
def room (length count : Nat) : Int :=
  if length = 0 then 0 else (count <<< (15 - length) : Nat)

/-- One more length. -/
def add (lengths : Lengths) (length : Nat) : Lengths :=
  { lengths with
    known := length :: lengths.known
    count := lengths.count + 1
    space := lengths.space - room length 1
    lastCoded := if length = 0 then lengths.lastCoded else length
    times := 0 }

/-- A length repeated.  Repetitions that follow each other are digits of one
number. -/
def addRepeated (lengths : Lengths) (length width digit : Nat) : Lengths :=
  let before := if lengths.repeated = length then lengths.times else 0
  let times := (if before = 0 then 0 else (before - 2) <<< width) + digit + 3
  let added := times - before
  { lengths with
    known := List.replicate added length ++ lengths.known
    count := lengths.count + added
    space := lengths.space - room length added
    repeated := length
    times := times }

/-- Read lengths until there is no room left, which has to be so at the end of
the alphabet at the latest. -/
def readOn (code : PrefixCode) (alphabet : Nat) (lengths : Lengths) : Nat → Unpacking Lengths
  | 0 => throw .invalid
  | limit + 1 => do
    if lengths.space = 0 then return lengths
    Unpacking.require (lengths.count < alphabet)
    let lengths ← match ← code.next with
      | 16 => do pure (lengths.addRepeated lengths.lastCoded 2 (← Unpacking.number 2))
      | 17 => do pure (lengths.addRepeated 0 3 (← Unpacking.number 3))
      | length => pure (lengths.add length)
    Unpacking.require (lengths.count ≤ alphabet)
    readOn code alphabet lengths limit

end Lengths

/-- Read a code over an alphabet of a size. -/
def readCode (alphabet : Nat) : Unpacking PrefixCode := do
  match ← Unpacking.number 2 with
  | 1 => readNamedCode alphabet
  | skipped =>
    let code ← readCodeForLengths skipped
    let lengths ← Lengths.start.readOn code alphabet (alphabet + 1)
    return PrefixCode.ofLengths lengths.known.reverse

/-- Read a number of codes over one alphabet. -/
def readCodes (count alphabet : Nat) : Unpacking (Array PrefixCode) := do
  return (← (List.range count).mapM fun _ => readCode alphabet).toArray

/-! ### Context maps -/

/-- Read the entries of a context map, given those read so far, the last one
first.  A small symbol stands for a run of zeros. -/
def readEntries (code : PrefixCode) (widest size : Nat) (known : List Nat) (count : Nat) :
    Nat → Unpacking (List Nat)
  | 0 => throw .invalid
  | limit + 1 => do
    if count = size then return known.reverse
    let symbol ← code.next
    let entries ←
      if symbol = 0 then pure [0]
      else if symbol ≤ widest then do
        pure (List.replicate ((1 <<< symbol) + (← Unpacking.number symbol)) 0)
      else pure [symbol - widest]
    Unpacking.require (count + entries.length ≤ size)
    readEntries code widest size (entries ++ known) (count + entries.length) limit

/-- Numbers given by their places in a list, in which each moves to the front
when it is named. -/
def undoMoveToFront (order : List Nat) : List Nat → List Nat
  | [] => []
  | place :: places =>
    let named := order.getD place 0
    named :: undoMoveToFront (named :: order.eraseIdx place) places

/-- Read a context map of a size: how many codes there are, and which of them is
in use in each context. -/
def readContextMap (size : Nat) : Unpacking (Nat × Array Nat) := do
  let count := (← smallNumber) + 1
  if count = 1 then return (1, Array.replicate size 0)
  let widest ← if ← Unpacking.bit then do pure ((← Unpacking.number 4) + 1) else pure 0
  let code ← readCode (count + widest)
  let entries ← readEntries code widest size [] 0 (size + 1)
  if ← Unpacking.bit then return (count, (undoMoveToFront (List.range 256) entries).toArray)
  else return (count, entries.toArray)

end Brotli

end Compression

end Relational
