import Relational.Json.Basic

/-!
# Writing JSON

A document is written either on one line without spaces or with one item on a
line, indented by two spaces for each level.  Both come from one printer, which
takes the line breaks and the gap behind a colon from a layout.
-/

namespace Relational

namespace Numeral

/-- The sign and digits of the power of ten. -/
def exponentText (exponent : Int) : List Char :=
  'e' :: (if exponent < 0 then '-' else '+') :: Nat.toDigits 10 exponent.natAbs

/-- The text of a numeral. -/
def text (numeral : Numeral) : List Char :=
  (if numeral.negative then ['-'] else []) ++ numeral.whole ++
    (if numeral.fraction.isEmpty then [] else '.' :: numeral.fraction) ++
    (match numeral.exponent with
      | none => []
      | some exponent => exponentText exponent)

end Numeral

namespace Json

/-- The blanks of a written document. -/
structure Layout where
  /-- What stands between two items at a depth. -/
  lineBreak : Nat → List Char
  afterColon : List Char

namespace Layout

/-- Everything on one line. -/
def compact : Layout :=
  ⟨fun _ => [], []⟩

/-- One item on a line, indented by its depth. -/
def indented : Layout :=
  ⟨fun depth => '\n' :: List.replicate (2 * depth) ' ', [' ']⟩

end Layout

/-- A hexadecimal digit in lower case. -/
def hexDigit (n : Nat) : Char :=
  Nat.digitChar (n % 16)

/-- A character inside a string.  Quotes, backslashes and control characters
are escaped, everything else stands for itself. -/
def escape (c : Char) : List Char :=
  if c = '"' then ['\\', '"']
  else if c = '\\' then ['\\', '\\']
  else if c = '\x08' then ['\\', 'b']
  else if c = '\x0c' then ['\\', 'f']
  else if c = '\n' then ['\\', 'n']
  else if c = '\r' then ['\\', 'r']
  else if c = '\t' then ['\\', 't']
  else if c.toNat < 32 then
    ['\\', 'u', '0', '0', hexDigit (c.toNat / 16), hexDigit c.toNat]
  else [c]

/-- A text as a JSON string. -/
def quoted (s : String) : List Char :=
  '"' :: s.toList.flatMap escape ++ ['"']

/-- A string's content; one that denotes no text is left empty. -/
def quoted? (content : Option String) : List Char :=
  quoted (content.getD "")

mutual

/-- The text of a value at a depth. -/
def write (layout : Layout) (depth : Nat) : Json → List Char
  | .null => ['n', 'u', 'l', 'l']
  | .boolean true => ['t', 'r', 'u', 'e']
  | .boolean false => ['f', 'a', 'l', 's', 'e']
  | .number numeral => numeral.text
  | .string content => quoted? content
  | .array [] => ['[', ']']
  | .array (first :: rest) =>
    '[' :: layout.lineBreak (depth + 1) ++ write layout (depth + 1) first ++
      writeItems layout depth rest
  | .object [] => ['\x7b', '\x7d']
  | .object (first :: rest) =>
    '\x7b' :: layout.lineBreak (depth + 1) ++ writeMember layout (depth + 1) first ++
      writeMembers layout depth rest
termination_by structural value => value

/-- The items behind the first one, up to the bracket that closes the array. -/
def writeItems (layout : Layout) (depth : Nat) : List Json → List Char
  | [] => layout.lineBreak depth ++ [']']
  | item :: rest =>
    ',' :: layout.lineBreak (depth + 1) ++ write layout (depth + 1) item ++
      writeItems layout depth rest
termination_by structural items => items

/-- One member: its name and its value. -/
def writeMember (layout : Layout) (depth : Nat) : Option String × Json → List Char
  | (name, value) => quoted? name ++ ':' :: layout.afterColon ++ write layout depth value
termination_by structural member => member

/-- The members behind the first one, up to the brace that closes the
object. -/
def writeMembers (layout : Layout) (depth : Nat) : List (Option String × Json) → List Char
  | [] => layout.lineBreak depth ++ ['\x7d']
  | member :: rest =>
    ',' :: layout.lineBreak (depth + 1) ++ writeMember layout (depth + 1) member ++
      writeMembers layout depth rest
termination_by structural members => members

end

/-- The text of a value on one line. -/
def compact (json : Json) : String :=
  String.ofList (write .compact 0 json)

/-- The text of a value with one item on a line. -/
def pretty (json : Json) : String :=
  String.ofList (write .indented 0 json)

end Json

end Relational
