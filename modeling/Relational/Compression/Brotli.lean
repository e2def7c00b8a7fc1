import Relational.Compression.Brotli.Block

/-!
# Brotli

A stream tells the size of its window, which bounds the reach of copies, and
goes on with stretches of output, of which the last is marked.  A stretch has
its bytes as they are, or in the form of commands, or it has bytes that are no
output.  Streams are read on their own, so copies from beyond their output have
no meaning.
-/

namespace Relational

namespace Compression

namespace Brotli

/-- The window of a stream: how far copies reach back, and the greatest width of
what is added to distances. -/
structure Window where
  reach : Nat
  widest : Nat

namespace Window

/-- The window whose size has a width. -/
def ofWidth (width widest : Nat) : Window :=
  ⟨(1 <<< width) - 16, widest⟩

/-- Read the width of a large window. -/
def readLarge : Unpacking Window := do
  Unpacking.require (!(← Unpacking.bit))
  let width ← Unpacking.number 6
  Unpacking.require (10 ≤ width && width ≤ 30)
  return ofWidth width 62

/-- Read the window of a stream. -/
def read : Unpacking Window := do
  if ← Unpacking.bit then
    let large ← Unpacking.number 3
    if large ≠ 0 then return ofWidth (17 + large) 24
    else
      match ← Unpacking.number 3 with
      | 0 => return ofWidth 17 24
      | 1 => readLarge
      | small => return ofWidth (8 + small) 24
  else return ofWidth 16 24

end Window

/-- The bits up to the next byte are zeros. -/
def requirePadding : Unpacking Unit := do
  Unpacking.require ((← Unpacking.padding) = 0)

/-- Read a number of digits of a width, less one.  More digits than the least
number of them do not end in a zero. -/
def readSize (width least digits : Nat) : Unpacking Nat := do
  let size ← Unpacking.number (width * digits)
  Unpacking.require (digits ≤ least || 1 <<< (width * (digits - 1)) ≤ size)
  return size + 1

/-- Skip bytes that are no output. -/
def skipBytes : Unpacking Unit := do
  Unpacking.require (!(← Unpacking.bit))
  let digits ← Unpacking.number 2
  let size ← if digits = 0 then pure 0 else readSize 8 1 digits
  requirePadding
  Unpacking.skip size

/-- Read a stretch, given the distances last used.  The result tells whether
another one follows, with the distances last used then. -/
def readStretch (window : Window) (recents : List Nat) : Unpacking (Bool × List Nat) := do
  let isLast ← Unpacking.bit
  let isEmpty ← if isLast then Unpacking.bit else pure false
  if isEmpty then return (false, recents)
  match ← Unpacking.number 2 with
  | 3 =>
    skipBytes
    return (!isLast, recents)
  | more =>
    let size ← readSize 4 4 (4 + more)
    let isPlain ← if isLast then pure false else Unpacking.bit
    if isPlain then
      requirePadding
      Unpacking.copyPacked size
      return (true, recents)
    else
      let stretch ← Stretch.read window.widest recents size
      return (!isLast, ← stretch.readCommands window.reach size)

/-- Read stretches up to the last one. -/
def readStretches (window : Window) (recents : List Nat) : Nat → Unpacking Unit
  | 0 => throw .exhausted
  | limit + 1 => do
    let (more, recents) ← readStretch window recents
    if more then readStretches window recents limit

/-- A stream with its window. -/
def stream : Unpacking Unit := do
  let window ← Window.read
  readStretches window initialDistances ((← Unpacking.bitsLeft) + 1)
  requirePadding

end Brotli

end Compression

end Relational
