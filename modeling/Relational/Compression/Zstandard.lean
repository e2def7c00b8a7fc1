import Relational.Compression.Unpacking

/-!
# Zstandard in texts

A stream is a sequence of frames, each of which starts with a mark.  A frame
with data cannot occur in a text, because its mark is not UTF-8.  What can occur
are frames to skip, which have a size and are no output.
-/

namespace Relational

namespace Compression

namespace Zstandard

/-- The mark of a frame with data. -/
def dataMark : List Nat :=
  [0x28, 0xB5, 0x2F, 0xFD]

/-- The mark of a frame to skip behind its first byte, which is one of sixteen. -/
def skipMark : List Nat :=
  [0x2A, 0x4D, 0x18]

/-- Whether a byte starts the mark of a frame to skip. -/
def startsSkipMark (byte : Nat) : Bool :=
  0x50 ≤ byte && byte < 0x60

/-- The next bytes are those of a mark. -/
def requireBytes : List Nat → Unpacking Unit
  | [] => pure ()
  | byte :: rest => do
    Unpacking.require ((← Unpacking.number 8) = byte)
    requireBytes rest

/-- Read a frame.  The result tells whether anything follows. -/
def readFrame : Unpacking Bool := do
  let first ← Unpacking.number 8
  if startsSkipMark first then
    requireBytes skipMark
    Unpacking.skip (← Unpacking.number 32)
    return 0 < (← Unpacking.bitsLeft)
  else
    Unpacking.require (dataMark.head? = some first)
    requireBytes dataMark.tail
    throw .invalid

/-- Any number of frames. -/
def stream : Unpacking Unit := do
  if 0 < (← Unpacking.bitsLeft) then Unpacking.repeatReading readFrame

end Zstandard

end Compression

end Relational
