/-!
# JSON values

A JSON value as a text denotes it: members of an object keep their order and
their repetitions, and a number keeps its digits, since what number they denote
is for the reader of a document to decide.
-/

namespace Relational

/-- A number as it is written: digits around a point, scaled by a power of ten.
Without fraction digits the point is not written. -/
structure Numeral where
  negative : Bool
  whole : List Char
  fraction : List Char
  exponent : Option Int
deriving DecidableEq

/-- A JSON value.  A string or member name is `none` if it has half of a
surrogate pair, so that it denotes no text. -/
inductive Json where
  | null
  | boolean (b : Bool)
  | number (numeral : Numeral)
  | string (content : Option String)
  | array (items : List Json)
  | object (members : List (Option String × Json))

namespace Json

/-- The string of a text. -/
def ofString (s : String) : Json :=
  .string (some s)

/-- The object of named members. -/
def ofMembers (members : List (String × Json)) : Json :=
  .object (members.map fun entry => (some entry.1, entry.2))

/-- The text of a string that denotes one. -/
def text? : Json → Option String
  | .string content => content
  | _ => none

/-- The items of an array. -/
def items? : Json → Option (List Json)
  | .array items => some items
  | _ => none

/-- The truth value of a boolean. -/
def boolean? : Json → Option Bool
  | .boolean b => some b
  | _ => none

end Json

end Relational
