import Relational.Proofs.Statement.Guard

/-!
# Positions in an insertion

Where an insertion names a column twice, or leaves one out, binding may find that from a
table that marks the positions of the columns that were named; what comes of it is the
same.
-/

namespace Relational

namespace Insert

variable {now : DateTime} {schema : Schema} {insertion : Insert}

/-- Binding an insertion to a valid schema looks up no position out of range. -/
theorem bind_inRange (now : DateTime) (valid : schema.Valid) (insertion : Insert) :
    InRange (insertion.bind now schema) :=
  bind_failsOnly InRange.general (.inl InRange.forms) (.inr valid)

/-- Mark the positions of columns in a table, up to one that was marked before. -/
def mark (seen : List Bool) : List (String × Nat) → Except Error (List Bool)
  | [] => .ok seen
  | (column, position) :: rest =>
    match seen[position]? with
    | some true => .error (.constraint (.columnRepeated column))
    | some false => mark (seen.set position true) rest
    | none => .error (.invalidQuery (.positionOutOfRange position))

/-- Bind an insertion, telling the columns that it names by their marks in a table. -/
def bindMarking (now : DateTime) (schema : Schema) (insertion : Insert) : Except Error Row := do
  let positions ← insertion.columns.mapM schema.position
  if insertion.columns.length ≠ insertion.values.length then
    .error (.invalidQuery
      (.countMismatch insertion.columns.length insertion.values.length))
  else
    let seen ← mark (List.replicate schema.columns.length false)
      (insertion.columns.zip positions)
    match seen.findIdx? (!·) with
    | some unseen => do
      let missing ← schema.columnAt unseen
      .error (.constraint (.columnMissing schema.name missing.name))
    | none => do
      let blank := List.replicate schema.columns.length Value.null
      let row ← fill now schema (positions.zip insertion.values) blank
      let declared ← schema.columnAt schema.keyPosition
      let key ← Row.cell row schema.keyPosition
      if key.isNull then .error (.constraint (.nullPrimaryKey declared.name))
      else return row

/-- The table in which the columns of some names are marked. -/
def marks (schema : Schema) (names : List String) : List Bool :=
  schema.columns.map fun declared => decide (declared.name ∈ names)

/-- A column is marked if it is named. -/
theorem getElem?_marks {column : Column} {position : Nat}
    (declared : schema.columns[position]? = some column) (names : List String) :
    (marks schema names)[position]? = some (decide (column.name ∈ names)) := by
  rw [marks, List.getElem?_map, declared]
  rfl

/-- A name marks its own position only. -/
theorem set_marks (valid : schema.Valid) {column : String} {position : Nat}
    (located : schema.position? column = some position) (names : List String) :
    (marks schema names).set position true = marks schema (column :: names) := by
  refine List.ext_getElem (by simp [marks]) fun other inside _ => ?_
  have inside : other < schema.columns.length := by simpa [marks] using inside
  have named : position = other ↔ schema.columns[other].name = column := by
    have stands := valid.position?_of_columns (List.getElem?_eq_getElem inside)
    constructor
    · rintro rfl
      have here := Schema.getElem?_columnNames_of_position? stands
      rw [Schema.getElem?_columnNames_of_position? located] at here
      exact (Option.some.inj here).symm
    · rintro rfl
      exact Option.some.inj (located.symm.trans stands)
  rw [List.getElem_set]
  simp only [marks, List.getElem_map, List.mem_cons, ← named]
  split <;> simp_all

/-- Marking finds the first name that occurs a second time, or marks all. -/
theorem mark_eq (valid : schema.Valid) {columns : List String} {positions : List Nat}
    (located : List.Forall₂ (fun column position => schema.position column = .ok position)
      columns positions) (earlier : List String) :
    mark (marks schema earlier) (columns.zip positions) =
      (Schema.firstRepeated? earlier columns).elim (.ok (marks schema (columns.reverse ++ earlier)))
        fun column => .error (.constraint (.columnRepeated column)) := by
  induction located generalizing earlier with
  | nil => rfl
  | @cons column position columns positions found _ ih =>
      have found := Schema.position_eq_ok_iff.mp found
      obtain ⟨declared, stands⟩ : ∃ declared, schema.columns[position]? = some declared :=
        ⟨_, List.getElem?_eq_getElem (Schema.position?_lt found)⟩
      have named : declared.name = column := by
        have here := Schema.getElem?_columnNames_of_position? found
        rw [Schema.columnNames, List.getElem?_map, stands] at here
        exact Option.some.inj here
      rw [List.zip_cons_cons, mark, getElem?_marks stands, named, Schema.firstRepeated?]
      by_cases repeated : column ∈ earlier
      · rw [decide_eq_true repeated, if_pos repeated]
        rfl
      · rw [decide_eq_false repeated, if_neg repeated]
        change mark ((marks schema earlier).set position true) (columns.zip positions) = _
        rw [set_marks valid found, ih, List.reverse_cons, List.append_assoc, List.singleton_append]

/-- The first position without a mark is that of the first column that is not named. -/
theorem findIdx?_marks (schema : Schema) (names : List String) :
    (marks schema names).findIdx? (!·) =
      schema.columns.findIdx? fun declared => decide (declared.name ∉ names) := by
  rw [marks, List.findIdx?_map]
  congr 1
  funext declared
  exact (decide_not).symm

/-- Marking the columns that are named gives the same row as looking each one up. -/
theorem bindMarking_eq (now : DateTime) (valid : schema.Valid) (insertion : Insert) :
    insertion.bindMarking now schema = insertion.bind now schema := by
  unfold bindMarking bind
  cases located : insertion.columns.mapM schema.position with
  | error error => rfl
  | ok positions =>
      refine ite_congr rfl (fun _ => rfl) fun _ => ?_
      have blank : List.replicate schema.columns.length false = marks schema [] := by
        simp [marks]
      rw [blank, mark_eq valid (mapM_eq_ok.mp located)]
      cases Schema.firstRepeated? [] insertion.columns with
      | some column => rfl
      | none =>
          have named : (fun declared : Column => decide (declared.name ∉ insertion.columns)) =
              fun declared => decide (declared.name ∉ insertion.columns.reverse ++ []) := by
            simp
          rw [named, List.find?_eq_bind_findIdx?_getElem?, ← findIdx?_marks]
          change (match (marks schema (insertion.columns.reverse ++ [])).findIdx? (!·) with
            | some unseen => _
            | none => _) = _
          cases unseen : (marks schema (insertion.columns.reverse ++ [])).findIdx? (!·) with
          | some unmarked =>
              rw [findIdx?_marks] at unseen
              obtain ⟨inside, -⟩ := List.findIdx?_eq_some_iff_getElem.mp unseen
              have stands := List.getElem?_eq_getElem inside
              simp only [Schema.columnAt, stands, Option.bind_some]
              rfl
          | none =>
              have stands := List.getElem?_eq_getElem valid.keyPosition_lt
              simp only [Schema.columnAt, Schema.keyName, stands, Option.bind_none]
              rfl

end Insert

end Relational
