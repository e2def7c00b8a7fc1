import Relational.Compression.PrefixCode

/-!
# Deflate

A stream consists of blocks.  A block has its bytes as they are, or it has
symbols in a prefix code: a byte, the length of a copy of earlier output, whose
distance follows in a code of its own, or the end of the block.  The codes are
fixed, or the block tells the lengths of its codes first.
-/

namespace Relational

namespace Compression

namespace Deflate

/-- The codes of a block: bytes and lengths, and distances. -/
structure Codes where
  literals : PrefixCode
  distances : PrefixCode

/-! ### Tables -/

/-- The least length of a copy for each symbol, with the number of bits that add
to it. -/
def copyLengths : List (Nat × Nat) :=
  [(3, 0), (4, 0), (5, 0), (6, 0), (7, 0), (8, 0), (9, 0), (10, 0), (11, 1), (13, 1), (15, 1),
    (17, 1), (19, 2), (23, 2), (27, 2), (31, 2), (35, 3), (43, 3), (51, 3), (59, 3), (67, 4),
    (83, 4), (99, 4), (115, 4), (131, 5), (163, 5), (195, 5), (227, 5), (258, 0)]

/-- The least distance of a copy for each symbol, with the number of bits that
add to it. -/
def copyDistances : List (Nat × Nat) :=
  [(1, 0), (2, 0), (3, 0), (4, 0), (5, 1), (7, 1), (9, 2), (13, 2), (17, 3), (25, 3), (33, 4),
    (49, 4), (65, 5), (97, 5), (129, 6), (193, 6), (257, 7), (385, 7), (513, 8), (769, 8),
    (1025, 9), (1537, 9), (2049, 10), (3073, 10), (4097, 11), (6145, 11), (8193, 12),
    (12289, 12), (16385, 13), (24577, 13)]

/-- The symbol that ends a block. -/
def endOfBlock : Nat := 256

/-- The codes of blocks that tell none. -/
def fixedCodes : Codes where
  literals := PrefixCode.ofLengths
    (List.replicate 144 8 ++ List.replicate 112 9 ++ List.replicate 24 7 ++ List.replicate 8 8)
  distances := PrefixCode.ofLengths (List.replicate 32 5)

/-- The order in which the lengths are told of the code for lengths. -/
def lengthOrder : List Nat :=
  [16, 17, 18, 0, 8, 7, 9, 6, 10, 5, 11, 4, 12, 3, 13, 2, 14, 1, 15]

/-! ### Codes that a block tells -/

/-- The code with some lengths, which has to be complete unless it has at most
one symbol. -/
def codeOfLengths (lengths : List Nat) : Unpacking PrefixCode := do
  Unpacking.require (PrefixCode.codedCount lengths ≤ 1 || PrefixCode.isComplete lengths)
  return PrefixCode.ofLengths lengths

/-- Read the lengths of a number of codes, given those read so far, the last one
first.  A symbol is a length or repeats one: the last length or zero. -/
def readLengths (code : PrefixCode) (total : Nat) (known : List Nat) :
    Nat → Unpacking (List Nat)
  | 0 => return known
  | limit + 1 => do
    if known.length = total then return known
    let repeated ← match ← code.next, known with
      | 16, [] => throw .invalid
      | 16, last :: _ => do pure (List.replicate (3 + (← Unpacking.number 2)) last)
      | 17, _ => do pure (List.replicate (3 + (← Unpacking.number 3)) 0)
      | 18, _ => do pure (List.replicate (11 + (← Unpacking.number 7)) 0)
      | length, _ => pure [length]
    Unpacking.require (known.length + repeated.length ≤ total)
    readLengths code total (repeated ++ known) limit

/-- The codes that a block tells. -/
def readCodes : Unpacking Codes := do
  let literalCount := (← Unpacking.number 5) + 257
  let distanceCount := (← Unpacking.number 5) + 1
  let lengthCount := (← Unpacking.number 4) + 4
  Unpacking.require (literalCount ≤ 286 && distanceCount ≤ 30)
  let told ← (lengthOrder.take lengthCount).mapM fun symbol => do
    return (symbol, ← Unpacking.number 3)
  let codeLengths := (List.range 19).map fun symbol => (told.lookup symbol).getD 0
  Unpacking.require (PrefixCode.isComplete codeLengths)
  let total := literalCount + distanceCount
  let lengths := (← readLengths (PrefixCode.ofLengths codeLengths) total [] (total + 1)).reverse
  let distances ← codeOfLengths (lengths.drop literalCount)
  let literals ← codeOfLengths (lengths.take literalCount)
  return ⟨literals, distances⟩

/-! ### Blocks -/

/-- The number that a symbol stands for by a table. -/
def readExtended (table : List (Nat × Nat)) (symbol : Nat) : Unpacking Nat := do
  match table[symbol]? with
  | some (least, width) => return least + (← Unpacking.number width)
  | none => throw .invalid

/-- Read a symbol of a block and do what it says.  The result tells whether the
block goes on. -/
def readSymbol (codes : Codes) : Unpacking Bool := do
  let symbol ← codes.literals.next
  if symbol < endOfBlock then
    Unpacking.emit (UInt8.ofNat symbol)
    return true
  else if symbol = endOfBlock then return false
  else
    let length ← readExtended copyLengths (symbol - endOfBlock - 1)
    let distance ← readExtended copyDistances (← codes.distances.next)
    Unpacking.copy distance length
    return true

/-- Read a block of bytes as they are, behind their number and its complement. -/
def readStored : Unpacking Unit := do
  let _ ← Unpacking.padding
  let length ← Unpacking.number 16
  let complement ← Unpacking.number 16
  Unpacking.require (length + complement = 0xFFFF)
  Unpacking.copyPacked length

/-- Read a block.  The result tells whether another one follows. -/
def readBlock : Unpacking Bool := do
  let isLast ← Unpacking.bit
  match ← Unpacking.number 2 with
  | 0 => readStored
  | 1 => Unpacking.repeatReading (readSymbol fixedCodes)
  | 2 => Unpacking.repeatReading (readSymbol (← readCodes))
  | _ => throw .invalid
  return !isLast

/-! ### Streams -/

/-- The checksum of a stream: the sum of the bytes and the sum of the sums. -/
def checksum (bytes : ByteArray) : Nat :=
  let (sums, sum) := bytes.foldl (fun (sums, sum) byte =>
    let sum := (sum + byte.toNat) % 65521
    ((sums + sum) % 65521, sum)) (0, 1)
  sums * 65536 + sum

/-- The header of a stream names the method and the reach of copies; it is a
multiple of 31, and no dictionary is agreed upon. -/
def isHeader (method flags : Nat) : Bool :=
  method % 16 = 8 && method / 16 ≤ 7 && (method * 256 + flags) % 31 = 0 && !flags.testBit 5

/-- A stream with its header and its checksum. -/
def stream : Unpacking Unit := do
  let method ← Unpacking.number 8
  let flags ← Unpacking.number 8
  Unpacking.require (isHeader method flags)
  Unpacking.repeatReading readBlock
  let _ ← Unpacking.padding
  let declared ← Unpacking.bigEndian 0 4
  Unpacking.require (declared = checksum (← get).output)

end Deflate

end Compression

end Relational
