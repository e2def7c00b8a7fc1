import Relational.Compression.Brotli.Code

/-!
# Blocks and commands of Brotli streams

A stretch of compressed output is told by commands.  Each gives some bytes and
then repeats earlier output.  Bytes, commands and distances come in blocks of
different types, and which code is in use depends on the type and on a context:
for a byte the two bytes before it, for a distance the length of the copy.
-/

namespace Relational

namespace Compression

namespace Brotli

/-! ### Blocks -/

/-- Least length and added width for each symbol that tells how long a block
is. -/
def blockLengths : List (Nat × Nat) :=
  [(1, 2), (5, 2), (9, 2), (13, 2), (17, 3), (25, 3), (33, 3), (41, 3), (49, 4), (65, 4),
    (81, 4), (97, 4), (113, 5), (145, 5), (177, 5), (209, 5), (241, 6), (305, 6), (369, 7),
    (497, 8), (753, 9), (1265, 10), (2289, 11), (4337, 12), (8433, 13), (16625, 24)]

/-- How the blocks of one kind follow each other. -/
structure Blocks where
  types : Nat
  typeCode : PrefixCode
  lengthCode : PrefixCode
  /-- The type of the block at hand and of the one before it. -/
  current : Nat
  previous : Nat
  /-- How much of the block at hand is left. -/
  left : Nat

namespace Blocks

/-- Read how blocks follow each other, with the length of the first one. -/
def read : Unpacking Blocks := do
  let types := (← smallNumber) + 1
  if types = 1 then return ⟨1, .constant 0, .constant 0, 0, 1, 0⟩
  let typeCode ← readCode (types + 2)
  let lengthCode ← readCode blockLengths.length
  let left ← readExtended blockLengths (← lengthCode.next)
  return ⟨types, typeCode, lengthCode, 0, 1, left⟩

/-- The type that a symbol names: the one before, the next one, or itself. -/
def typeOf (blocks : Blocks) (symbol : Nat) : Nat :=
  match symbol with
  | 0 => blocks.previous
  | 1 => (blocks.current + 1) % blocks.types
  | symbol + 2 => symbol % blocks.types

/-- Go on by one item, to the next block if there is none left in the block at
hand.  A single block has no end. -/
def advance (blocks : Blocks) : Unpacking Blocks := do
  if blocks.types = 1 then return blocks
  else if 0 < blocks.left then return { blocks with left := blocks.left - 1 }
  else
    let type := blocks.typeOf (← blocks.typeCode.next)
    let length ← readExtended blockLengths (← blocks.lengthCode.next)
    return { blocks with current := type, previous := blocks.current, left := length - 1 }

end Blocks

/-! ### Contexts of bytes -/

/-- How the two bytes before a byte make up its context. -/
inductive ContextMode where
  | lowBits
  | highBits
  | text
  | signed

namespace ContextMode

/-- The modes by number. -/
def ofNat : Nat → ContextMode
  | 0 => .lowBits
  | 1 => .highBits
  | 2 => .text
  | _ => .signed

/-- The class of a byte of ASCII text by what is likely to follow it. -/
def asciiClass (c : Char) : Nat :=
  if c.isDigit then 44
  else if c.isUpper then if "AEIOU".toList.contains c then 48 else 52
  else if c.isLower then if "aeiou".toList.contains c then 56 else 60
  else if "\t\n\r".toList.contains c then 4
  else if c < ' ' || c = '\x7f' then 0
  else if c = ' ' then 8
  else if c = '\"' || c = '\'' then 16
  else if c = '%' then 20
  else if "(<[\x7b".toList.contains c then 24
  else if ")>]\x7d".toList.contains c then 28
  else if ",:;".toList.contains c then 32
  else if c = '.' then 36
  else if c = '=' then 40
  else 12

/-- What the last byte adds to the context in text. -/
def lastClass (byte : Nat) : Nat :=
  if byte < 128 then asciiClass (Char.ofNat byte)
  else if byte < 192 then byte % 2
  else 2 + byte % 2

/-- What the byte before the last adds to the context in text. -/
def earlierClass (byte : Nat) : Nat :=
  let c := Char.ofNat byte
  if 224 ≤ byte then 2
  else if 128 ≤ byte || byte ≤ 32 || byte = 127 then 0
  else if c.isLower then 3
  else if c.isAlphanum then 2
  else 1

/-- The class of a byte by its magnitude as a signed number. -/
def magnitudeClass (byte : Nat) : Nat :=
  if byte = 0 then 0
  else if byte < 16 then 1
  else if byte < 64 then 2
  else if byte < 128 then 3
  else if byte < 192 then 4
  else if byte < 240 then 5
  else if byte < 255 then 6
  else 7

/-- The context of a byte behind two others. -/
def context (mode : ContextMode) (last earlier : Nat) : Nat :=
  match mode with
  | .lowBits => last % 64
  | .highBits => last / 4
  | .text => lastClass last ||| earlierClass earlier
  | .signed => magnitudeClass last * 8 + magnitudeClass earlier

end ContextMode

/-! ### Distances -/

/-- How distances are written. -/
structure DistanceForm where
  /-- How many low bits of a distance are part of its symbol. -/
  postfixWidth : Nat
  /-- How many of the least distances have symbols of their own. -/
  direct : Nat
  /-- The greatest width of what is added to a distance. -/
  widest : Nat

namespace DistanceForm

/-- How many symbols name recent distances.  They come first. -/
def recentSymbols : Nat := 16

/-- The number of symbols for distances. -/
def alphabet (form : DistanceForm) : Nat :=
  recentSymbols + form.direct + (form.widest <<< (form.postfixWidth + 1))

/-- The distance that a symbol says in full, with what is added to it. -/
def readFull (form : DistanceForm) (symbol : Nat) : Unpacking Nat := do
  if symbol < form.direct then return symbol + 1
  else
    let rest := symbol - form.direct
    let high := rest >>> form.postfixWidth
    let width := high / 2 + 1
    let added ← Unpacking.number width
    let offset := ((2 + high % 2) <<< width) - 4 + added
    return (offset <<< form.postfixWidth) + rest % (1 <<< form.postfixWidth) + form.direct + 1

end DistanceForm

/-- What a symbol for a recent distance names: which one, and what is added to
it. -/
def recentForms : List (Nat × Int) :=
  [(0, 0), (1, 0), (2, 0), (3, 0), (0, -1), (0, 1), (0, -2), (0, 2), (0, -3), (0, 3),
    (1, -1), (1, 1), (1, -2), (1, 2), (1, -3), (1, 3)]

/-- The distances before the first one. -/
def initialDistances : List Nat :=
  [4, 11, 15, 16]

/-! ### Commands -/

/-- Least length and added width for each symbol for a number of bytes. -/
def insertLengths : List (Nat × Nat) :=
  [(0, 0), (1, 0), (2, 0), (3, 0), (4, 0), (5, 0), (6, 1), (8, 1), (10, 2), (14, 2), (18, 3),
    (26, 3), (34, 4), (50, 4), (66, 5), (98, 5), (130, 6), (194, 7), (322, 8), (578, 9),
    (1090, 10), (2114, 12), (6210, 14), (22594, 24)]

/-- Least length and added width for each symbol for a copy. -/
def copyLengths : List (Nat × Nat) :=
  [(2, 0), (3, 0), (4, 0), (5, 0), (6, 0), (7, 0), (8, 0), (9, 0), (10, 1), (12, 1), (14, 2),
    (18, 2), (22, 3), (30, 3), (38, 4), (54, 4), (70, 5), (102, 5), (134, 6), (198, 7),
    (326, 8), (582, 9), (1094, 10), (2118, 24)]

/-- The first symbols of both kinds for each group of 64 commands. -/
def commandGroups : List (Nat × Nat) :=
  [(0, 0), (0, 8), (0, 0), (0, 8), (8, 0), (8, 8), (0, 16), (16, 0), (8, 16), (16, 8), (16, 16)]

/-- The number of commands. -/
def commandAlphabet : Nat := 704

/-- Commands below this one repeat the last distance without saying so. -/
def firstWithDistance : Nat := 128

/-- What is needed to read the commands of a stretch of output. -/
structure Stretch where
  bytes : Blocks
  commands : Blocks
  distances : Blocks
  form : DistanceForm
  modes : Array ContextMode
  byteMap : Array Nat
  distanceMap : Array Nat
  byteCodes : Array PrefixCode
  commandCodes : Array PrefixCode
  distanceCodes : Array PrefixCode
  /-- The last four distances, the last one first. -/
  recents : List Nat
  /-- How much of the output of the stretch is left. -/
  left : Nat

namespace Stretch

/-- A code of several. -/
def codeAt (codes : Array PrefixCode) (index : Nat) : PrefixCode :=
  codes.getD index (.constant 0)

/-- Read what precedes the commands of a stretch. -/
def read (widest : Nat) (recents : List Nat) (length : Nat) : Unpacking Stretch := do
  let bytes ← Blocks.read
  let commands ← Blocks.read
  let distances ← Blocks.read
  let postfixWidth ← Unpacking.number 2
  let direct := (← Unpacking.number 4) <<< postfixWidth
  let form : DistanceForm := ⟨postfixWidth, direct, widest⟩
  let modes ← (List.range bytes.types).mapM fun _ => do
    return ContextMode.ofNat (← Unpacking.number 2)
  let (byteCount, byteMap) ← readContextMap (bytes.types * 64)
  let (distanceCount, distanceMap) ← readContextMap (distances.types * 4)
  let byteCodes ← readCodes byteCount 256
  let commandCodes ← readCodes commands.types commandAlphabet
  let distanceCodes ← readCodes distanceCount form.alphabet
  return ⟨bytes, commands, distances, form, modes.toArray, byteMap, distanceMap, byteCodes,
    commandCodes, distanceCodes, recents, length⟩

/-- Read some bytes. -/
def readBytes (stretch : Stretch) : Nat → Unpacking Stretch
  | 0 => return stretch
  | count + 1 => do
    let bytes ← stretch.bytes.advance
    let last ← Unpacking.recent 1
    let earlier ← Unpacking.recent 2
    let mode := stretch.modes.getD bytes.current .lowBits
    let context := mode.context last.toNat earlier.toNat
    let code := codeAt stretch.byteCodes (stretch.byteMap.getD (bytes.current * 64 + context) 0)
    Unpacking.emit (UInt8.ofNat (← code.next))
    readBytes { stretch with bytes := bytes } count

/-- The stretch after a distance. -/
def remember (stretch : Stretch) (distance : Nat) : Stretch :=
  { stretch with recents := distance :: stretch.recents.take 3 }

/-- Read the distance of a copy.  Repeating the last distance does not make it
more recent. -/
def readDistance (stretch : Stretch) (copyLength : Nat) : Unpacking (Stretch × Nat) := do
  let distances ← stretch.distances.advance
  let stretch := { stretch with distances := distances }
  let context := min (copyLength - 2) 3
  let code := codeAt stretch.distanceCodes
    (stretch.distanceMap.getD (distances.current * 4 + context) 0)
  let symbol ← code.next
  match recentForms[symbol]? with
  | some (place, added) =>
    let distance := ((stretch.recents.getD place 0 : Int) + added).toNat
    Unpacking.require (0 < distance)
    return (if symbol = 0 then stretch else stretch.remember distance, distance)
  | none =>
    let distance ← stretch.form.readFull (symbol - DistanceForm.recentSymbols)
    return (stretch.remember distance, distance)

/-- Read a command and do what it says.  Copies reach back to the start of the
output, within the window. -/
def readCommand (window : Nat) (stretch : Stretch) : Unpacking Stretch := do
  let commands ← stretch.commands.advance
  let symbol ← (codeAt stretch.commandCodes commands.current).next
  let (firstInsert, firstCopy) := commandGroups.getD (symbol / 64) (0, 0)
  let insertLength ← readExtended insertLengths (firstInsert + symbol / 8 % 8)
  let copyLength ← readExtended copyLengths (firstCopy + symbol % 8)
  Unpacking.require (insertLength ≤ stretch.left)
  let stretch ← readBytes { stretch with commands := commands } insertLength
  let stretch := { stretch with left := stretch.left - insertLength }
  if stretch.left = 0 then return stretch
  let (stretch, distance) ←
    if symbol < firstWithDistance then pure (stretch, stretch.recents.headD 0)
    else stretch.readDistance copyLength
  Unpacking.require (distance ≤ min window (← get).output.size && copyLength ≤ stretch.left)
  Unpacking.copy distance copyLength
  return { stretch with left := stretch.left - copyLength }

/-- Read commands until the stretch is complete.  The result is the distances
last used. -/
def readCommands (window : Nat) (stretch : Stretch) : Nat → Unpacking (List Nat)
  | 0 => return stretch.recents
  | limit + 1 => do
    if stretch.left = 0 then return stretch.recents
    else readCommands window (← stretch.readCommand window) limit

end Stretch

end Brotli

end Compression

end Relational
