import Relational.Json.Basic

/-!
# Records in JSON

A record has fixed fields.  It is written as an object with a member for each
field, and may be read from such an object, in any order and with further
members, or from an array that gives the fields in order and may end early.
-/

namespace Relational

namespace Json

/-- The members of an object whose names all denote texts. -/
def entries? : Json → Option (List (String × Json))
  | .object members => members.mapM fun member => member.1.map fun name => (name, member.2)
  | _ => none

/-- The fields in a list of members; none may be given twice. -/
def namedFields? (names : List String) (entries : List (String × Json)) :
    Option (List (Option Json)) :=
  if names.all fun name => entries.countP (fun entry => entry.1 = name) ≤ 1 then
    some (names.map fun name => entries.lookup name)
  else
    none

/-- The fields of a record in the order of their names, as far as they are
given. -/
def fields? (names : List String) : Json → Option (List (Option Json))
  | .array items =>
    if items.length ≤ names.length then
      some (items.map some ++ List.replicate (names.length - items.length) none)
    else
      none
  | json => json.entries?.bind (namedFields? names)

/-- A field that may be left out: what it denotes if it is given. -/
def orDefault {α : Type} (fallback : α) (decode : Json → Option α) : Option Json → Option α
  | none => some fallback
  | some json => decode json

/-- Something that may be null. -/
def orNull {α : Type} (decode : Json → Option α) : Json → Option (Option α)
  | .null => some none
  | json => (decode json).map some

end Json

end Relational
