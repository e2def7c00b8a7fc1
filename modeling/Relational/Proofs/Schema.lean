import Mathlib.Data.List.Basic
import Mathlib.Data.List.Nodup
import Relational.Schema

/-!
# Valid schemas

A schema is valid if its columns are what a declaration of a table may declare:
their names differ and exactly one of them is the primary key.  Its index
declarations are in order if their names differ and each of them names a column.
In a valid schema names and positions of columns determine each other.
-/

namespace Relational

namespace Schema

/-- The columns of a schema have different names, and exactly one of them is the
primary key. -/
structure Valid (schema : Schema) : Prop where
  names_differ : schema.columnNames.Nodup
  one_key : schema.columns.countP Column.primaryKey = 1

/-- The declared indexes have different names, and each is on a column. -/
structure IndexesValid (schema : Schema) : Prop where
  names_differ : (schema.indexes.map IndexDeclaration.name).Nodup
  on_columns : ∀ declared ∈ schema.indexes, declared.column ∈ schema.columnNames

/-- A schema with the same columns under the same name; it may declare other
indexes. -/
structure SameColumns (schema changed : Schema) : Prop where
  name : changed.name = schema.name
  columns : changed.columns = schema.columns

/-- No name is repeated exactly if all differ from each other and from those seen before. -/
theorem firstRepeated?_eq_none_iff (seen names : List String) :
    firstRepeated? seen names = none ↔ names.Nodup ∧ ∀ name ∈ names, name ∉ seen := by
  induction names generalizing seen with
  | nil => simp [firstRepeated?]
  | cons name rest ih =>
      by_cases repeated : name ∈ seen
      · simp [firstRepeated?, repeated]
      · simp only [firstRepeated?, repeated, ↓reduceIte, ih, List.nodup_cons, List.mem_cons,
          not_or, forall_eq_or_imp, not_false_eq_true, true_and]
        constructor
        · rintro ⟨distinct, fresh⟩
          exact ⟨⟨fun member => (fresh name member).1 rfl, distinct⟩,
            fun other member => (fresh other member).2⟩
        · rintro ⟨⟨absent, distinct⟩, fresh⟩
          exact ⟨distinct, fun other member =>
            ⟨fun same => absent (same ▸ member), fresh other member⟩⟩

/-- A declaration of columns is accepted exactly if it makes a valid schema. -/
theorem create_eq_ok_iff {name : String} {columns : List Column} {schema : Schema} :
    create name columns = .ok schema ↔ schema = ⟨name, columns, []⟩ ∧ schema.Valid := by
  constructor
  · intro created
    unfold create at created
    split at created
    · cases created
    · split at created
      · cases created
      · rename_i distinct
        split at created
        · cases created
        · rename_i one
          cases created
          exact ⟨rfl, ((firstRepeated?_eq_none_iff _ _).mp distinct).1, one⟩
        · cases created
  · rintro ⟨rfl, valid⟩
    have distinct : firstRepeated? [] (columns.map Column.name) = none :=
      (firstRepeated?_eq_none_iff _ _).mpr ⟨valid.names_differ, by simp⟩
    have one : columns.countP Column.primaryKey = 1 := valid.one_key
    have some_column : columns.isEmpty = false := by
      cases columns with
      | nil => cases one
      | cons => rfl
    simp only [create, some_column, Bool.false_eq_true, ↓reduceIte, distinct, one]

variable {schema : Schema}

/-- One more index may be declared under a new name on a column. -/
theorem IndexesValid.append (valid : schema.IndexesValid) {declared : IndexDeclaration}
    (fresh : schema.index? declared.name = none) (onColumn : declared.column ∈ schema.columnNames) :
    IndexesValid { schema with indexes := schema.indexes ++ [declared] } := by
  constructor
  · rw [List.map_append, List.map_singleton]
    refine valid.names_differ.append (List.nodup_singleton _) ?_
    intro name member single
    obtain ⟨other, member, named⟩ := List.mem_map.mp member
    have same : other.name = declared.name := named.trans (List.mem_singleton.mp single)
    exact absurd (decide_eq_true same) (List.find?_eq_none.mp fresh other member)
  · intro other member
    rcases List.mem_append.mp member with old | new
    · exact valid.on_columns other old
    · rw [List.mem_singleton.mp new]
      exact onColumn

/-! ### Names and positions -/

theorem columnNames_length : schema.columnNames.length = schema.columns.length :=
  List.length_map _

/-- A name's position is where the name stands among the names. -/
theorem getElem?_columnNames_of_position? {column : String} {position : Nat}
    (found : schema.position? column = some position) :
    schema.columnNames[position]? = some column := by
  obtain ⟨inside, named, -⟩ := List.findIdx?_eq_some_iff_getElem.mp found
  rw [columnNames, List.getElem?_map, List.getElem?_eq_getElem inside]
  exact congrArg some (of_decide_eq_true named)

/-- A name has no position exactly if no column has it. -/
theorem position?_eq_none_iff {column : String} :
    schema.position? column = none ↔ column ∉ schema.columnNames := by
  rw [position?, List.findIdx?_eq_none_iff, columnNames, List.mem_map]
  constructor
  · rintro differ ⟨declared, member, rfl⟩
    exact of_decide_eq_false (differ declared member) rfl
  · intro absent declared member
    exact decide_eq_false fun named => absent ⟨declared, member, named⟩

theorem position?_lt {column : String} {position : Nat}
    (found : schema.position? column = some position) : position < schema.columns.length := by
  rw [← columnNames_length]
  exact (List.getElem?_eq_some_iff.mp (getElem?_columnNames_of_position? found)).1

/-- At the position of a name stands the declaration of the column with this name. -/
theorem exists_column_of_position? {name : String} {position : Nat}
    (found : schema.position? name = some position) :
    ∃ declared, schema.columns[position]? = some declared ∧ declared.name = name := by
  have named := getElem?_columnNames_of_position? found
  rw [columnNames, List.getElem?_map] at named
  exact Option.map_eq_some_iff.mp named

/-- The declaration at the position of a name is the one of that name. -/
theorem column?_of_position? {name : String} {position : Nat} {column : Column}
    (found : schema.position? name = some position)
    (stands : schema.columns[position]? = some column) : schema.column? name = some column := by
  rw [column?, found]
  exact stands

theorem position_eq_ok_iff {column : String} {position : Nat} :
    schema.position column = .ok position ↔ schema.position? column = some position := by
  unfold Schema.position
  split <;> simp_all

theorem columnAt_eq_ok_iff {position : Nat} {column : Column} :
    schema.columnAt position = .ok column ↔ schema.columns[position]? = some column := by
  unfold columnAt
  split <;> simp_all

namespace Valid

/-- In a valid schema the name at a position leads back to that position. -/
theorem position?_of_getElem? (valid : schema.Valid) {column : String} {position : Nat}
    (named : schema.columnNames[position]? = some column) :
    schema.position? column = some position := by
  cases found : schema.position? column with
  | none => exact absurd (List.mem_of_getElem? named) (position?_eq_none_iff.mp found)
  | some other =>
      have named' := getElem?_columnNames_of_position? found
      have inside := (List.getElem?_eq_some_iff.mp named').1
      rw [(List.getElem?_inj inside valid.names_differ).mp (named'.trans named.symm)]

/-- A column of a valid schema is found by its name where it was declared. -/
theorem position?_of_columns (valid : schema.Valid) {column : Column} {position : Nat}
    (declared : schema.columns[position]? = some column) :
    schema.position? column.name = some position := by
  apply valid.position?_of_getElem?
  rw [columnNames, List.getElem?_map, declared]
  rfl

/-- The primary key of a valid schema is one of its columns. -/
theorem keyPosition_lt (valid : schema.Valid) : schema.keyPosition < schema.columns.length := by
  rw [keyPosition, List.findIdx_lt_length]
  obtain ⟨column, member, marked⟩ :=
    List.countP_pos_iff.mp (Nat.lt_of_lt_of_eq Nat.zero_lt_one valid.one_key.symm)
  exact ⟨column, member, marked⟩

/-- The name of the primary key stands at its position. -/
theorem position?_keyName (valid : schema.Valid) :
    schema.position? schema.keyName = some schema.keyPosition := by
  apply valid.position?_of_getElem?
  rw [columnNames, List.getElem?_map, keyName, List.getElem?_eq_getElem valid.keyPosition_lt]
  rfl

end Valid

end Schema

end Relational
