import Relational.Json.Number
import Relational.Value.Basic

/-!
# Cells in JSON

Cells are written as JSON scalars.  A float that is not finite has no numeral
and is written as null.
-/

namespace Relational

namespace Value

/-- The JSON scalar of a cell. -/
def toJson : Value → Json
  | .null => .null
  | .integer n => .number (Numeral.ofInt n.toInt)
  | .float x => if x.isFinite then .number (Numeral.ofBinary64 x) else .null
  | .boolean b => .boolean b
  | .text s => Json.ofString s

/-- The cell of a numeral: an integer if it is one that fits, else a float. -/
def ofNumeral? (numeral : Numeral) : Option Value :=
  match numeral.integer? with
  | some n => some (.integer n)
  | none => numeral.float?.map .float

/-- The cell of a JSON scalar. -/
def ofJson? : Json → Option Value
  | .null => some .null
  | .boolean b => some (.boolean b)
  | .number numeral => ofNumeral? numeral
  | .string content => content.map .text
  | _ => none

end Value

end Relational
