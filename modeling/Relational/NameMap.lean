/-!
# Maps from names

A finite map whose keys are names, kept as a list in the order of the names.
Tables of a database, databases of a catalog, files of a directory and fields
of a stored row are all found by name and listed in that order.
-/

namespace Relational

/-- A finite map from names, listed in their order. -/
structure NameMap (α : Type) where
  entries : List (String × α)
deriving DecidableEq, Repr

namespace NameMap

variable {α β : Type}

/-- The map without names. -/
def empty : NameMap α := ⟨[]⟩

instance : EmptyCollection (NameMap α) := ⟨empty⟩

instance : Inhabited (NameMap α) := ⟨empty⟩

/-- What a name stands for. -/
def get? (map : NameMap α) (name : String) : Option α :=
  map.entries.lookup name

/-- Whether a name is in the map. -/
def contains (map : NameMap α) (name : String) : Bool :=
  (map.get? name).isSome

/-- A list of entries with one more, which replaces an entry of its name. -/
def insertEntry (name : String) (value : α) : List (String × α) → List (String × α)
  | [] => [(name, value)]
  | (other, kept) :: rest =>
    if name = other then (name, value) :: rest
    else if name < other then (name, value) :: (other, kept) :: rest
    else (other, kept) :: insertEntry name value rest

/-- The map in which a name stands for a value. -/
def insert (map : NameMap α) (name : String) (value : α) : NameMap α :=
  ⟨insertEntry name value map.entries⟩

/-- The map without a name. -/
def erase (map : NameMap α) (name : String) : NameMap α :=
  ⟨map.entries.filter fun entry => entry.1 ≠ name⟩

/-- The names, in order. -/
def names (map : NameMap α) : List String :=
  map.entries.map Prod.fst

/-- The values, in the order of their names. -/
def values (map : NameMap α) : List α :=
  map.entries.map Prod.snd

/-- The map with a function applied to every value. -/
def map (f : α → β) (names : NameMap α) : NameMap β :=
  ⟨names.entries.map fun entry => (entry.1, f entry.2)⟩

/-- The map of a list of entries, of which the last one of each name counts. -/
def ofList (entries : List (String × α)) : NameMap α :=
  entries.foldl (fun map entry => map.insert entry.1 entry.2) empty

end NameMap

end Relational
