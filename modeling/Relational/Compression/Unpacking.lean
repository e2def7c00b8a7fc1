/-!
# Unpacking

A packed stream is read bit by bit, the lowest bit of each byte first, and
bytes of output are gained on the way.  A stream may break off: what it has given
up to then still counts.  So the output is kept whatever stops the reading.
-/

namespace Relational

namespace Compression

/-- What stops the reading of a stream before its end. -/
inductive Stop where
  /-- There are no more packed bytes. -/
  | exhausted
  /-- The packed bytes have no meaning. -/
  | invalid
deriving DecidableEq

/-- The packed bytes, how many bits of them have been read, and the output. -/
structure Progress where
  packed : ByteArray
  position : Nat
  output : ByteArray

/-- A step of reading, which may come to a stop. -/
abbrev Unpacking (α : Type) : Type :=
  ExceptT Stop (StateM Progress) α

namespace Unpacking

/-! ### Input -/

/-- The next bit. -/
def bit : Unpacking Bool := do
  let progress ← get
  let index := progress.position / 8
  if present : index < progress.packed.size then
    set { progress with position := progress.position + 1 }
    return progress.packed[index].toNat.testBit (progress.position % 8)
  else throw .exhausted

/-- The number with the next bits as its digits, the lowest one first. -/
def number : Nat → Unpacking Nat
  | 0 => return 0
  | width + 1 => do
    let low ← bit
    let high ← number width
    return low.toNat + 2 * high

/-- The number with the next bytes as its digits, the highest one first. -/
def bigEndian (high : Nat) : Nat → Unpacking Nat
  | 0 => return high
  | count + 1 => do
    let byte ← number 8
    bigEndian (high * 256 + byte) count

/-- The bits left in the byte that is being read; afterwards a new byte starts. -/
def padding : Unpacking Nat := do
  let progress ← get
  number ((8 - progress.position % 8) % 8)

/-- How many bits there are yet to read. -/
def bitsLeft : Unpacking Nat := do
  let progress ← get
  return progress.packed.size * 8 - progress.position

/-- The stream goes on only under a condition. -/
def require (condition : Bool) : Unpacking Unit :=
  if condition then pure () else throw .invalid

/-- Pass over bytes. -/
def skip : Nat → Unpacking Unit
  | 0 => pure ()
  | count + 1 => do
    let _ ← number 8
    skip count

/-! ### Output -/

/-- Put out a byte. -/
def emit (byte : UInt8) : Unpacking Unit :=
  modify fun progress => { progress with output := progress.output.push byte }

/-- The byte that was put out some places ago, zero before the first one. -/
def recent (distance : Nat) : Unpacking UInt8 := do
  let output := (← get).output
  if distance ≤ output.size then return output.get! (output.size - distance) else return 0

/-- Put out again what was put out some places ago.  The copy may run into
itself. -/
def copy (distance : Nat) : Nat → Unpacking Unit
  | 0 => pure ()
  | count + 1 => do
    emit (← recent distance)
    copy distance count

/-- Put out bytes as they are packed. -/
def copyPacked : Nat → Unpacking Unit
  | 0 => pure ()
  | count + 1 => do
    emit (UInt8.ofNat (← number 8))
    copyPacked count

/-! ### Repetition -/

/-- Repeat a step as long as it asks for it, at most as often as the limit
says. -/
def repeatStep (step : Unpacking Bool) : Nat → Unpacking Unit
  | 0 => throw .exhausted
  | limit + 1 => do
    if ← step then repeatStep step limit

/-- Repeat a step that reads at least one bit as long as it asks for it. -/
def repeatReading (step : Unpacking Bool) : Unpacking Unit := do
  repeatStep step ((← bitsLeft) + 1)

/-! ### Whole streams -/

/-- Why a text is no packed stream. -/
inductive Fault where
  | invalid
  /-- The stream ends before the bytes do. -/
  | leftOver
deriving DecidableEq

/-- The output of a packed stream, as far as it goes. -/
def run (stream : Unpacking Unit) (packed : ByteArray) : Except Fault ByteArray :=
  match (ExceptT.run stream).run ⟨packed, 0, ByteArray.empty⟩ with
  | (.ok (), progress) =>
    if (progress.position + 7) / 8 < packed.size then .error .leftOver else .ok progress.output
  | (.error .exhausted, progress) => .ok progress.output
  | (.error .invalid, _) => .error .invalid

end Unpacking

end Compression

end Relational
