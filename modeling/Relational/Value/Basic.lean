import Relational.Decimal.Text

/-!
# Cell values

A cell holds nothing, a 64-bit integer, a binary64 number, a truth value or a
text.  This module has the type, its two texts (for people and as a literal of
the query language) and the plain equality of two cells.
-/

namespace Relational

/-- The declared type of a column. -/
inductive ColumnType where
  | integer
  | float
  | text
  | boolean
deriving DecidableEq, Repr, Inhabited

namespace ColumnType

/-- The canonical name of a type in the query language. -/
def sqlName : ColumnType → String
  | .integer => "INT"
  | .float => "FLOAT"
  | .text => "STRING"
  | .boolean => "BOOL"

/-- The type with a canonical name. -/
def ofSqlName? : String → Option ColumnType
  | "INT" => some .integer
  | "FLOAT" => some .float
  | "STRING" => some .text
  | "BOOL" => some .boolean
  | _ => none

end ColumnType

/-- The content of one cell. -/
inductive Value where
  | null
  | integer (n : Int64)
  | float (x : Binary64)
  | boolean (b : Bool)
  | text (s : String)
deriving DecidableEq, Inhabited

/-- The decimal numeral of an integer, with a minus sign in front of a negative
one. -/
def integerNumeral (n : Int) : List Char :=
  if n < 0 then '-' :: Nat.toDigits 10 n.natAbs else Nat.toDigits 10 n.natAbs

/-- The decimal numeral of an integer as a string. -/
def integerText (n : Int) : String :=
  String.ofList (integerNumeral n)

/-- The decimal numeral of a natural number as a string. -/
def naturalText (n : Nat) : String :=
  String.ofList (Nat.toDigits 10 n)

namespace Value

/-- Whether the cell holds nothing. -/
def isNull : Value → Bool
  | .null => true
  | _ => false

/-- The number in a cell, an integer being rounded to the nearest one. -/
def asFloat? : Value → Option Binary64
  | .integer n => some (Binary64.ofInt64 n)
  | .float x => some x
  | _ => none

/-- The text in a cell. -/
def asText? : Value → Option String
  | .text s => some s
  | _ => none

/-- The text of a value as it is shown to people. -/
def display : Value → String
  | .null => "NULL"
  | .integer n => integerText n.toInt
  | .float x => Decimal.plain x
  | .boolean true => "true"
  | .boolean false => "false"
  | .text s => s

/-- A text with every single quote written twice. -/
def doubleQuotes : List Char → List Char
  | [] => []
  | c :: rest => if c = '\'' then '\'' :: '\'' :: doubleQuotes rest else c :: doubleQuotes rest

/-- The literal of the query language that denotes a text. -/
def textLiteral (s : String) : List Char :=
  '\'' :: doubleQuotes s.toList ++ ['\'']

/-- The text of a value as a literal of the query language; messages quote
values this way. -/
def sqlLiteral : Value → String
  | .text s => String.ofList (textLiteral s)
  | value => value.display

/-- Two cells hold the same kind of value and compare equal within it.  NaN
differs from itself, and the two zeros are the same. -/
def same : Value → Value → Bool
  | .null, .null => true
  | .integer m, .integer n => m == n
  | .float x, .float y => Binary64.equal x y
  | .boolean a, .boolean b => a == b
  | .text s, .text t => s == t
  | _, _ => false

end Value

/-- A stored row: one value for each column, in schema order. -/
abbrev Row := List Value

/-- The identity of a row within its table; it is never given out twice. -/
abbrev RowId := Nat

end Relational
