import Relational.Decimal.Text
import Relational.Json.Basic

/-!
# Reading JSON

A text is read from left to right.  Each function takes the text that is left
and returns what it read with the rest; every call is made on a shorter text,
so the length of the text bounds the depth of the calls.
-/

namespace Relational

namespace Json

/-- The blanks between the parts of a document. -/
def isBlank (c : Char) : Bool :=
  c == ' ' || c == '\n' || c == '\t' || c == '\r'

/-- A text without the blanks in front. -/
def skipBlanks (text : List Char) : List Char :=
  text.dropWhile isBlank

/-! ### Strings -/

/-- A part of a string: a character, or a numbered UTF-16 unit. -/
inductive Piece where
  | character (c : Char)
  | unit (code : Nat)
deriving DecidableEq

namespace Piece

/-- The first half of a surrogate pair. -/
def isHighSurrogate (code : Nat) : Bool :=
  0xD800 ≤ code && code < 0xDC00

/-- The second half of a surrogate pair. -/
def isLowSurrogate (code : Nat) : Bool :=
  0xDC00 ≤ code && code < 0xE000

/-- The text of the parts of a string, unless half of a surrogate pair stands
alone. -/
def join? : List Piece → Option (List Char)
  | [] => some []
  | .character c :: rest => (join? rest).map (c :: ·)
  | .unit high :: .unit low :: rest =>
    if isHighSurrogate high then
      if isLowSurrogate low then
        (join? rest).map
          (Char.ofNat (0x10000 + (high - 0xD800) * 0x400 + (low - 0xDC00)) :: ·)
      else none
    else if isLowSurrogate high then none
    else (join? (.unit low :: rest)).map (Char.ofNat high :: ·)
  | .unit code :: rest =>
    if isHighSurrogate code || isLowSurrogate code then none
    else (join? rest).map (Char.ofNat code :: ·)

end Piece

/-- The value of a hexadecimal digit. -/
def hexValue? (c : Char) : Option Nat :=
  if '0' ≤ c ∧ c ≤ '9' then some (c.toNat - '0'.toNat)
  else if 'a' ≤ c ∧ c ≤ 'f' then some (c.toNat - 'a'.toNat + 10)
  else if 'A' ≤ c ∧ c ≤ 'F' then some (c.toNat - 'A'.toNat + 10)
  else none

/-- The unit that four hexadecimal digits number. -/
def unit? (a b c d : Char) : Option Nat := do
  let a ← hexValue? a
  let b ← hexValue? b
  let c ← hexValue? c
  let d ← hexValue? d
  return ((a * 16 + b) * 16 + c) * 16 + d

/-- The character of an escape with one letter. -/
def escaped? : Char → Option Char
  | '"' => some '"'
  | '\\' => some '\\'
  | '/' => some '/'
  | 'b' => some '\x08'
  | 'f' => some '\x0c'
  | 'n' => some '\n'
  | 'r' => some '\r'
  | 't' => some '\t'
  | _ => none

/-- The parts of a string up to its closing quote.  Control characters have to
be escaped. -/
def readPieces : List Char → Option (List Piece × List Char)
  | '\\' :: 'u' :: a :: b :: c :: d :: rest =>
    match unit? a b c d, readPieces rest with
    | some code, some (pieces, rest) => some (.unit code :: pieces, rest)
    | _, _ => none
  | '\\' :: letter :: rest =>
    match escaped? letter, readPieces rest with
    | some c, some (pieces, rest) => some (.character c :: pieces, rest)
    | _, _ => none
  | c :: rest =>
    if c = '"' then some ([], rest)
    else if c = '\\' ∨ c.toNat < 32 then none
    else
      match readPieces rest with
      | some (pieces, rest) => some (.character c :: pieces, rest)
      | none => none
  | [] => none

/-- The content of a string behind its opening quote. -/
def readText (text : List Char) : Option (Option String × List Char) :=
  (readPieces text).map fun (pieces, rest) => ((Piece.join? pieces).map String.ofList, rest)

/-! ### Numbers -/

/-- The digits in front of a text and what follows them. -/
def spanDigits (text : List Char) : List Char × List Char :=
  (text.takeWhile Char.isDigit, text.dropWhile Char.isDigit)

/-- At least one digit, and no zero in front of others. -/
def isWholePart : List Char → Bool
  | [] => false
  | ['0'] => true
  | first :: _ => first != '0'

/-- The digits behind a point, if there is a point. -/
def readFraction : List Char → Option (List Char × List Char)
  | '.' :: text =>
    let (digits, rest) := spanDigits text
    if digits.isEmpty then none else some (digits, rest)
  | text => some ([], text)

/-- The power of ten behind an `e`, if there is one. -/
def readExponent : List Char → Option (Option Int × List Char)
  | [] => some (none, [])
  | mark :: text =>
    if mark = 'e' ∨ mark = 'E' then
      let (negative, digitsOn) := Decimal.splitSign text
      let (digits, rest) := spanDigits digitsOn
      let value : Int := Decimal.valueOf digits
      if digits.isEmpty then none else some (some (if negative then -value else value), rest)
    else some (none, mark :: text)

/-- A minus sign, if there is one. -/
def splitMinus : List Char → Bool × List Char
  | '-' :: text => (true, text)
  | text => (false, text)

/-- A numeral. -/
def readNumeral (text : List Char) : Option (Numeral × List Char) :=
  let (negative, unsigned) := splitMinus text
  let (whole, rest) := spanDigits unsigned
  if isWholePart whole then do
    let (fraction, rest) ← readFraction rest
    let (exponent, rest) ← readExponent rest
    return (⟨negative, whole, fraction, exponent⟩, rest)
  else none

/-! ### Values -/

mutual

/-- A value. -/
def readValue : Nat → List Char → Option (Json × List Char)
  | 0, _ => none
  | depth + 1, text =>
    match skipBlanks text with
    | 'n' :: 'u' :: 'l' :: 'l' :: rest => some (.null, rest)
    | 't' :: 'r' :: 'u' :: 'e' :: rest => some (.boolean true, rest)
    | 'f' :: 'a' :: 'l' :: 's' :: 'e' :: rest => some (.boolean false, rest)
    | '"' :: rest => (readText rest).map fun (content, rest) => (.string content, rest)
    | '[' :: rest =>
      match skipBlanks rest with
      | ']' :: rest => some (.array [], rest)
      | rest => do
        let (first, rest) ← readValue depth rest
        let (others, rest) ← readItems depth rest
        return (.array (first :: others), rest)
    | '\x7b' :: rest =>
      match skipBlanks rest with
      | '\x7d' :: rest => some (.object [], rest)
      | rest => do
        let (first, rest) ← readMember depth rest
        let (others, rest) ← readMembers depth rest
        return (.object (first :: others), rest)
    | rest => (readNumeral rest).map fun (numeral, rest) => (.number numeral, rest)

/-- The items behind the first one, up to the bracket that closes the array. -/
def readItems : Nat → List Char → Option (List Json × List Char)
  | 0, _ => none
  | depth + 1, text =>
    match skipBlanks text with
    | ']' :: rest => some ([], rest)
    | ',' :: rest => do
      let (item, rest) ← readValue depth rest
      let (others, rest) ← readItems depth rest
      return (item :: others, rest)
    | _ => none

/-- One member: its name and its value. -/
def readMember : Nat → List Char → Option ((Option String × Json) × List Char)
  | 0, _ => none
  | depth + 1, text =>
    match skipBlanks text with
    | '"' :: rest => do
      let (name, rest) ← readText rest
      match skipBlanks rest with
      | ':' :: rest => do
        let (value, rest) ← readValue depth rest
        return ((name, value), rest)
      | _ => none
    | _ => none

/-- The members behind the first one, up to the brace that closes the
object. -/
def readMembers : Nat → List Char → Option (List (Option String × Json) × List Char)
  | 0, _ => none
  | depth + 1, text =>
    match skipBlanks text with
    | '\x7d' :: rest => some ([], rest)
    | ',' :: rest => do
      let (member, rest) ← readMember depth rest
      let (others, rest) ← readMembers depth rest
      return (member :: others, rest)
    | _ => none

end

/-- The value that a text denotes, if nothing but blanks follows it. -/
def ofText? (text : String) : Option Json :=
  let characters := text.toList
  match readValue (characters.length + 1) characters with
  | some (json, rest) => if rest.all isBlank then some json else none
  | none => none

end Json

end Relational
