import Relational.Proofs.Database.Partition
import Relational.Proofs.Statement.Insertion
import Relational.Proofs.Value.Equality

/-!
# Rows are found under the key that they were inserted with

An insertion and a query each coerce the literal that they are given to the type
of the primary key.  Both come to the same cell, so that the query finds the row
which the insertion added, and it finds no other one: a row with an equal cell
has the same key, for which the insertion would have been refused.  A cell that
is NaN is the exception, since it has a key and equals nothing.
-/

namespace Relational

namespace Insert

variable {now : DateTime} {schema : Schema} {insertion : Insert} {row : Row} {literal : Value}

/-- A row whose insertion binds has a primary key. -/
theorem key_of_bind (bound : insertion.bind now schema = .ok row) :
    ∃ key, row[schema.keyPosition]? = some key ∧ key.isNull = false := by
  obtain ⟨_, -, -, -, -, -, found⟩ := filled_of_bind bound
  exact found

/-- The primary key that a literal is given for is what a comparison of the
primary key makes of the literal. -/
theorem coerceFor_key (valid : schema.Valid) (bound : insertion.bind now schema = .ok row)
    (gives : insertion.Gives schema.keyName (.literal literal)) (number : literal.isNaN = false) :
    ∃ cell, Expr.coerceFor schema schema.keyName literal = .ok cell ∧
      row[schema.keyPosition]? = some cell ∧ cell.isNull = false ∧ cell.isNaN = false := by
  obtain ⟨column, declared⟩ : ∃ column, schema.columns[schema.keyPosition]? = some column :=
    ⟨_, List.getElem?_eq_getElem valid.keyPosition_lt⟩
  have named : schema.keyName = column.name := by
    rw [Schema.keyName, declared]
  obtain ⟨cell, coerces, stands⟩ :=
    (bind_describes valid bound).cell_of_literal declared (named ▸ gives)
  obtain ⟨key, found, present⟩ := key_of_bind bound
  cases stands.symm.trans found
  have number' := Value.convert?_number number (Value.coerce_eq_ok_iff.mp coerces)
  refine ⟨cell, ?_, stands, present, number'⟩
  rw [Expr.coerceFor, Schema.column?_of_position? valid.position?_keyName declared]
  exact coerces

end Insert

/-! ### Rows with a value in a column -/

namespace Row

variable {now : DateTime} {schema : Schema} {row : Row} {column : String} {position : Nat}
  {cell value : Value}

/-- A column equals a literal in a row as its cell does. -/
theorem isMet_equal (located : schema.position? column = some position)
    (holds : row[position]? = some cell) {order : Option Ordering}
    (compared : cell.comparison value = .ok order) :
    (Expr.binary .equal (.column column) (.literal value)).isMet (Scope.ofRow now schema row) =
      .ok (order = some .eq : Bool) := by
  have found : (Scope.ofRow now schema row).column column = .ok cell := by
    simp only [Scope.ofRow, located, Option.bind_some, holds]
  have evaluates : (Expr.binary .equal (.column column) (.literal value)).evaluate
      (Scope.ofRow now schema row) = .ok (Value.ofTruth (order.map (· == .eq))) := by
    change ((Scope.ofRow now schema row).column column >>= _) = _
    rw [found]
    change (cell.comparison value >>= _) = _
    rw [compared]
    rfl
  change (Expr.evaluate _ _ >>= _) = _
  rw [evaluates]
  change (Value.truth _ >>= _) = _
  rw [Value.truth_ofTruth]
  rcases order with _ | _ | _ | _ <;> rfl

end Row

namespace Select

/-- The query for the rows with a value in a column. -/
def allWith (table column : String) (value : Value) : Select :=
  allWhere table (.binary .equal (.column column) (.literal value))

variable {now : DateTime} {table : Table} {schema : Schema} {name column : String}
  {condition : Expr} {value coerced : Value} {found : List (RowId × Row)}

/-- Binding a query for the rows that equal a value coerces the value to the column's
type. -/
theorem bind_allWith {position : Nat} (located : schema.position? column = some position)
    (coerces : Expr.coerceFor schema column value = .ok coerced) :
    (allWith name column value).bind schema = .ok (allWith name column coerced) := by
  have known : Expr.checkColumns schema [] (.binary .equal (.column column) (.literal value)) =
      .ok () := by
    simp [Expr.checkColumns, Expr.unknownColumn?, Expr.nodes, located]
  have compared : Expr.coerceComparison schema (.column column) (.literal value) =
      .ok (.column column, .literal coerced) :=
    bind_eq_ok.mpr ⟨coerced, coerces, rfl⟩
  exact bind_allWhere_eq known rfl (bind_eq_ok.mpr ⟨_, compared, rfl⟩)

/-- A query for all rows under a condition shows the rows that were found. -/
theorem answer_allWhere_eq (finds : table.matchingRows now (some condition) = .ok found) :
    (allWhere name condition).answer now table = .ok (found.map Prod.snd) := by
  have projected : found.mapM (fun entry =>
      rowOutput now table.schema (allWhere name condition) entry.2) =
        .ok (found.map fun entry => ⟨[], entry.2⟩) := by
    simp only [rowOutput_allWhere]
    exact List.mapM_pure
  refine bind_eq_ok.mpr ⟨found, finds, bind_eq_ok.mpr ⟨_, projected, ?_⟩⟩
  exact congrArg Except.ok List.map_map

end Select

namespace Table

variable {now : DateTime} {table : Table} {column : String} {position : Nat} {value cell : Value}
  {row : Row}

/-- The rows that equal a value in a column are those with the key of what the
column makes of it. -/
theorem WellTyped.matchingRows_allWith (wellTyped : table.WellTyped)
    (located : table.schema.position? column = some position)
    (coerces : Expr.coerceFor table.schema column value = .ok cell) (present : cell.isNull = false)
    (number : cell.isNaN = false) (now : DateTime) :
    table.matchingRows now (some (.binary .equal (.column column) (.literal cell))) =
      .ok (table.rows.filter fun entry => entry.2.key? position = Key.ofValue? cell) := by
  have inside := Schema.position?_lt located
  have declared := List.getElem?_eq_getElem inside
  have fits := Expr.coerceFor_fits (Schema.column?_of_position? located declared) coerces
  have compares : ∀ entry ∈ table.rows, ∃ held order, entry.2[position]? = some held ∧
      held.comparison cell = .ok order ∧
      (order = some .eq ↔ entry.2.key? position = Key.ofValue? cell) := by
    intro entry member
    have typed := wellTyped.typed entry member
    have holds := List.getElem?_eq_getElem (inside.trans_eq typed.width.symm)
    have fits' := typed.fits position _ _ declared holds
    obtain ⟨order, compared⟩ := Value.exists_comparison fits' fits
    have equal := Value.comparison_eq_iff fits' fits present number
    rw [compared, Except.ok.injEq] at equal
    refine ⟨_, order, holds, compared, equal.trans ?_⟩
    rw [Row.key?, holds]
    rfl
  have binds : Expr.coerceCondition table.schema
      (some (.binary .equal (.column column) (.literal value))) =
        .ok (some (.binary .equal (.column column) (.literal cell))) :=
    bind_eq_ok.mpr ⟨_, bind_eq_ok.mpr ⟨_, bind_eq_ok.mpr ⟨cell, coerces, rfl⟩, rfl⟩, rfl⟩
  obtain ⟨found, finds⟩ : ∃ found, table.matchingRows now
      (some (.binary .equal (.column column) (.literal cell))) = .ok found := by
    apply exists_matchingRows wellTyped.toSound
    intro entry member
    obtain ⟨held, order, holds, compared, -⟩ := compares entry member
    exact ⟨_, Row.isMet_equal located holds compared⟩
  rw [finds, matchingRows_eq wellTyped.toSound wellTyped.typed binds finds]
  refine congrArg Except.ok (List.filter_congr fun entry member => ?_)
  obtain ⟨held, order, holds, compared, equal⟩ := compares entry member
  rw [Row.meets, Row.isMet_equal located holds compared]
  simp [equal]

/-- A row whose key is there is refused only because its key is taken. -/
theorem checkKey_eq_error {error : Error} (holds : row[table.schema.keyPosition]? = some cell)
    (present : cell.isNull = false) (fails : table.checkKey row = .error error) :
    error = .duplicateKey table.schema.name table.schema.keyName cell := by
  simp only [checkKey, Row.cell, holds] at fails
  change (if cell.isNull then _ else _) = _ at fails
  rw [present, if_neg Bool.false_ne_true] at fails
  split at fails
  · cases fails
    rfl
  · cases fails

/-- A row of the table's width whose key is there is refused exactly if a row has
its key, and else comes last. -/
theorem Sound.insert_cases (sound : table.Sound)
    (wide : row.length = table.schema.columns.length)
    (holds : row[table.schema.keyPosition]? = some cell) (present : cell.isNull = false) :
    (∃ entry ∈ table.rows, entry.2.key? table.schema.keyPosition = Key.ofValue? cell) ∧
        table.insert row =
          .error (.duplicateKey table.schema.name table.schema.keyName cell) ∨
      (∀ entry ∈ table.rows, entry.2.key? table.schema.keyPosition ≠ Key.ofValue? cell) ∧
        ∃ extended, table.insert row = .ok (extended, table.nextId) ∧
          extended.schema = table.schema ∧ extended.rows = table.rows ++ [(table.nextId, row)] := by
  have keyed : row.key? table.schema.keyPosition = Key.ofValue? cell := by rw [Row.key?, holds]; rfl
  have checked := sound.checkKey_eq_ok_iff wide
  rw [keyed, Key.isSome_ofValue?, present] at checked
  rw [Table.insert, if_neg (not_not.mpr wide)]
  cases outcome : table.checkKey row with
  | error error =>
      rw [outcome] at checked
      left
      refine ⟨?_, ?_⟩
      · by_contra unique
        have passes := checked.mpr ⟨rfl, fun id kept stands same =>
          unique ⟨(id, kept), sound.mem_of_viewOf stands, same⟩⟩
        cases passes
      · rw [checkKey_eq_error holds present outcome]
        rfl
  | ok _ =>
      rw [outcome] at checked
      right
      refine ⟨fun entry member => ?_, _, rfl, rfl, ?_⟩
      · exact (checked.mp rfl).2 entry.1 entry.2 (sound.viewOf_of_mem member)
      · exact insertOrdered_of_below sound.below

end Table

namespace Database

variable {now : DateTime} {database changed : Database} {table : Table} {name column : String}
  {position : Nat} {value cell : Value} {insertion : Insert} {row : Row} {outcome : Outcome}

/-- The rows with a value in a column are shown in their order. -/
theorem query_allWith (filed : database.tables.get? name = some table)
    (wellTyped : table.WellTyped) (located : table.schema.position? column = some position)
    (coerces : Expr.coerceFor table.schema column value = .ok cell) (present : cell.isNull = false)
    (number : cell.isNaN = false) (now : DateTime) :
    database.query now (.select (.allWith name column value)) =
      .ok (.rows table.schema.columnNames ((table.rows.filter fun entry =>
        entry.2.key? position = Key.ofValue? cell).map Prod.snd)) := by
  have binds : (Select.allWith name column value).bind table.schema =
      .ok (Select.allWith name column cell) := Select.bind_allWith located coerces
  have finds := wellTyped.matchingRows_allWith located coerces present number now
  have columns : (Select.allWith name column cell).columnNames table.schema =
      table.schema.columnNames := List.append_nil _
  change (database.table name >>= _) = _
  rw [table_eq_ok_iff.mpr filed]
  change ((Select.allWith name column value).bind table.schema >>= _) = _
  rw [binds]
  change ((Select.allWith name column cell).answer now table >>= _) = _
  rw [Select.allWith, Select.answer_allWhere_eq finds, ← columns]
  rfl

/-- An insertion whose row binds comes to what adding the row to its table comes
to. -/
theorem execute_insert (filed : database.tables.get? insertion.table = some table)
    (bound : insertion.bind now table.schema = .ok row) :
    database.execute now (.insert insertion) =
      database.whole (.changed 1) ((table.insert row).map fun added =>
        database.withTable insertion.table added.1) := by
  have inserted : database.insertRow now insertion = (table.insert row).map fun added =>
      database.withTable insertion.table added.1 := by
    unfold insertRow
    rw [table_eq_ok_iff.mpr filed]
    change (insertion.bind now table.schema >>= _) = _
    rw [bound]
    change (table.insert row >>= _) = _
    cases table.insert row <;> rfl
  rw [execute, inserted]

/-- An insertion that succeeds adds a row that binds. -/
theorem added_of_execute (filed : database.tables.get? insertion.table = some table)
    (succeeds : database.execute now (.insert insertion) = (changed, .ok outcome)) :
    ∃ row extended id, insertion.bind now table.schema = .ok row ∧
      table.insert row = .ok (extended, id) ∧
      changed = database.withTable insertion.table extended := by
  rw [execute] at succeeds
  cases inserted : database.insertRow now insertion with
  | error error =>
      rw [inserted] at succeeds
      cases succeeds
  | ok result =>
      rw [inserted] at succeeds
      cases succeeds
      obtain ⟨_, looked, inserted⟩ := bind_eq_ok.mp inserted
      cases filed.symm.trans (table_eq_ok_iff.mp looked)
      obtain ⟨row, bound, inserted⟩ := bind_eq_ok.mp inserted
      obtain ⟨⟨extended, id⟩, added, result⟩ := bind_eq_ok.mp inserted
      cases result
      exact ⟨row, extended, id, bound, added, rfl⟩

/-- A database with one more row, the last one of a table. -/
structure Extends (database : Database) (name : String) (table : Table) (row : Row)
    (changed : Database) : Prop where
  added : ∃ extended, changed.tables.get? name = some extended ∧
    extended.schema = table.schema ∧ extended.rows = table.rows ++ [(table.nextId, row)]
  others : ∀ other ≠ name, changed.tables.get? other = database.tables.get? other

/-- What an insertion whose row binds comes to depends on whether a row has the key
of the new one. -/
theorem Sound.insertion_cases (sound : database.Sound)
    (filed : database.tables.get? insertion.table = some table)
    (bound : insertion.bind now table.schema = .ok row)
    (holds : row[table.schema.keyPosition]? = some cell) (present : cell.isNull = false) :
    (∃ entry ∈ table.rows, entry.2.key? table.schema.keyPosition = Key.ofValue? cell) ∧
        (database.execute now (.insert insertion)).2 =
          .error (.duplicateKey table.schema.name table.schema.keyName cell) ∨
      (∀ entry ∈ table.rows, entry.2.key? table.schema.keyPosition ≠ Key.ofValue? cell) ∧
        ∃ changed, database.execute now (.insert insertion) = (changed, .ok (.changed 1)) ∧
          database.Extends insertion.table table row changed := by
  have sound' := (sound.wellTyped _ _ filed).toSound
  rw [execute_insert filed bound]
  rcases sound'.insert_cases (Insert.bind_typed bound).width holds present with
    ⟨taken, refused⟩ | ⟨free, extended, added, schema, rows⟩
  · left
    rw [refused]
    exact ⟨taken, rfl⟩
  · right
    rw [added]
    refine ⟨free, _, rfl, ⟨extended, ?_, schema, rows⟩, fun other elsewhere => ?_⟩
    · exact (NameMap.get?_insert ..).trans (if_pos rfl)
    · exact (NameMap.get?_insert ..).trans (if_neg elsewhere)

/-- An equation holds exactly if its sides compare as equal. -/
theorem operate_equal_iff {held : Value} :
    Expr.operate .equal held value = .ok (.boolean true) ↔
      held.comparison value = .ok (some .eq) := by
  refine ⟨fun equal => Expr.comparison_of_operate equal rfl, fun equal => ?_⟩
  change (held.comparison value >>= _) = _
  rw [equal]
  rfl

namespace Extends

variable {added : Row}

/-- A row that was added under a key that no row had is the only one with it. -/
theorem filter_key (extends' : database.Extends name table row changed) {extended : Table}
    (filed : changed.tables.get? name = some extended)
    (free : ∀ entry ∈ table.rows, entry.2.key? position ≠ Key.ofValue? cell)
    (keyed : row.key? position = Key.ofValue? cell) :
    (extended.rows.filter fun entry => entry.2.key? position = Key.ofValue? cell).map Prod.snd =
      [row] := by
  obtain ⟨_, filed', -, rows⟩ := extends'.added
  cases filed.symm.trans filed'
  have none_before : table.rows.filter
      (fun entry => entry.2.key? position = Key.ofValue? cell) = [] :=
    List.filter_eq_nil_iff.mpr fun entry member => by simpa using free entry member
  rw [rows, List.filter_append, none_before]
  simp [keyed]

end Extends

/-- A row whose key is a literal is the only one that a query for the literal
shows, and no other row is accepted under it. -/
theorem Reachable.found_of_insert (reachable : database.Reachable)
    (filed : database.tables.get? insertion.table = some table) {literal : Value}
    (gives : insertion.Gives table.schema.keyName (.literal literal))
    (number : literal.isNaN = false)
    (succeeds : database.execute now (.insert insertion) = (changed, .ok outcome)) :
    ∃ row, insertion.Describes now table.schema row ∧
      database.Extends insertion.table table row changed ∧
      (∀ later, changed.query later
          (.select (.allWith insertion.table table.schema.keyName literal)) =
        .ok (.rows table.schema.columnNames [row])) ∧
      ∀ (again : Insert) later row', again.table = insertion.table →
        again.Gives table.schema.keyName (.literal literal) →
        again.bind later table.schema = .ok row' → ∃ key,
          (changed.execute later (.insert again)).2 =
            .error (.duplicateKey table.schema.name table.schema.keyName key) := by
  have valid := (reachable.sound.wellTyped _ _ filed).valid
  have sound' : changed.Sound := by
    have kept : (database.execute now (.insert insertion)).1.Sound :=
      reachable.sound.execute trivial
    rwa [succeeds] at kept
  obtain ⟨row, _, _, bound, -, -⟩ := added_of_execute filed succeeds
  obtain ⟨cell, coerces, holds, present, number'⟩ :=
    Insert.coerceFor_key valid bound gives number
  have keyed : row.key? table.schema.keyPosition = Key.ofValue? cell := by
    rw [Row.key?, holds]
    rfl
  rcases reachable.sound.insertion_cases filed bound holds present with
    ⟨-, refused⟩ | ⟨free, _, accepted, extends'⟩
  · rw [succeeds] at refused
    cases refused
  cases succeeds.symm.trans accepted
  obtain ⟨extended, filed', same, rows⟩ := extends'.added
  refine ⟨row, Insert.bind_describes valid bound, extends', fun later => ?_, ?_⟩
  · rw [← same] at coerces ⊢
    rw [query_allWith filed' (sound'.wellTyped _ _ filed')
      ((sound'.wellTyped _ _ filed').valid.position?_keyName) coerces present number', same,
      extends'.filter_key filed' free keyed]
  · intro again later row' into gives' bound'
    obtain ⟨cell', coerces', holds', present', -⟩ :=
      Insert.coerceFor_key valid bound' gives' number
    cases coerces.symm.trans coerces'
    rw [← into] at filed'
    rw [← same] at bound' holds' keyed ⊢
    rcases sound'.insertion_cases filed' bound' holds' present' with
      ⟨-, refused⟩ | ⟨free', -⟩
    · exact ⟨cell, refused⟩
    · have member : (table.nextId, row) ∈ extended.rows := by
        rw [rows]
        exact List.mem_append_right _ List.mem_cons_self
      exact absurd keyed (free' _ member)

/-- A row is refused for its key exactly if the primary key of a row equals its
own. -/
theorem Sound.duplicateKey_iff (sound : database.Sound)
    (filed : database.tables.get? insertion.table = some table)
    (bound : insertion.bind now table.schema = .ok row) {key : Value}
    (holds : row[table.schema.keyPosition]? = some key) (number : key.isNaN = false) :
    (∃ name column value, (database.execute now (.insert insertion)).2 =
        .error (.duplicateKey name column value)) ↔
      ∃ entry ∈ table.rows, ∃ held, entry.2[table.schema.keyPosition]? = some held ∧
        Expr.operate .equal held key = .ok (.boolean true) := by
  have wellTyped := sound.wellTyped _ _ filed
  have declared := List.getElem?_eq_getElem wellTyped.valid.keyPosition_lt
  have fits := (Insert.bind_typed bound).fits _ _ _ declared holds
  obtain ⟨key', holds', present⟩ := Insert.key_of_bind bound
  cases holds.symm.trans holds'
  have taken_iff : (∃ entry ∈ table.rows, ∃ held,
      entry.2[table.schema.keyPosition]? = some held ∧
        Expr.operate .equal held key = .ok (.boolean true)) ↔
      ∃ entry ∈ table.rows, entry.2.key? table.schema.keyPosition = Key.ofValue? key := by
    refine exists_congr fun entry => and_congr_right fun member => ?_
    have typed := wellTyped.typed entry member
    have stands := List.getElem?_eq_getElem
      (wellTyped.valid.keyPosition_lt.trans_eq typed.width.symm)
    have equal := Value.comparison_eq_iff (typed.fits _ _ _ declared stands) fits present number
    simp only [operate_equal_iff, Row.key?, stands, Option.some.injEq, exists_eq_left', equal,
      Option.bind_some]
  rw [taken_iff]
  rcases sound.insertion_cases filed bound holds present with
    ⟨taken, refused⟩ | ⟨free, _, accepted, -⟩
  · exact iff_of_true ⟨_, _, _, refused⟩ taken
  · apply iff_of_false
    · rintro ⟨_, _, _, refused⟩
      rw [accepted] at refused
      cases refused
    · rintro ⟨entry, member, same⟩
      exact free entry member same

/-- A row that was inserted is found under the literal that its primary key was
given as, and as long as it is there no other row is accepted under that literal.
A key is refused only if it equals that of a row. -/
theorem Reachable.inserted_found (reachable : database.Reachable)
    (filed : database.tables.get? insertion.table = some table) (now : DateTime) :
    (∀ literal, insertion.Gives table.schema.keyName (.literal literal) →
      literal.isNaN = false → ∀ changed outcome,
        database.execute now (.insert insertion) = (changed, .ok outcome) →
          ∃ row, insertion.Describes now table.schema row ∧
            database.Extends insertion.table table row changed ∧
            (∀ later, changed.query later
                (.select (.allWith insertion.table table.schema.keyName literal)) =
              .ok (.rows table.schema.columnNames [row])) ∧
            ∀ (again : Insert) later row', again.table = insertion.table →
              again.Gives table.schema.keyName (.literal literal) →
              again.bind later table.schema = .ok row' → ∃ key,
                (changed.execute later (.insert again)).2 =
                  .error (.duplicateKey table.schema.name table.schema.keyName key)) ∧
      ∀ row key, insertion.bind now table.schema = .ok row →
        row[table.schema.keyPosition]? = some key → key.isNaN = false →
          ((∃ name column value, (database.execute now (.insert insertion)).2 =
              .error (.duplicateKey name column value)) ↔
            ∃ entry ∈ table.rows, ∃ held, entry.2[table.schema.keyPosition]? = some held ∧
              Expr.operate .equal held key = .ok (.boolean true)) := by
  refine ⟨fun literal gives number changed outcome succeeds =>
    reachable.found_of_insert filed gives number succeeds, fun row key bound holds number => ?_⟩
  exact reachable.sound.duplicateKey_iff filed bound holds number

/-- The insertion of a tank whose level is given as a text, behind its note. -/
def measurement : Insert :=
  ⟨"tank", ["note", "level"], [.literal (.text "high"), .literal (.text "3.5")]⟩

/-- The insertion of a tank whose level is that of another one. -/
def remeasurement : Insert :=
  ⟨"tank", ["level", "note"], [.literal (.text "1.0"), .literal .null]⟩

/-- A new level is found under its text, and is refused when it comes a second time in
another form. -/
theorem plant_measured :
    plant.Reachable ∧ plant.tables.get? "tank" = some adjustedTanks ∧
      measurement.Gives "level" (.literal (.text "3.5")) ∧
      (∃ changed outcome row,
        plant.execute leapDay (.insert measurement) = (changed, .ok outcome) ∧
        measurement.Describes leapDay adjustedTanks.schema row ∧
        plant.Extends "tank" adjustedTanks row changed ∧
        ∀ later, changed.query later (.select (.allWith "tank" "level" (.text "3.5"))) =
          .ok (.rows ["level", "note"] [row])) ∧
      ∃ entry ∈ adjustedTanks.rows, ∃ held, entry.2[0]? = some held ∧
        Expr.operate .equal held (.float ⟨0x3ff0000000000000⟩) = .ok (.boolean true) := by
  have filed : plant.tables.get? "tank" = some adjustedTanks := by decide +kernel
  have gives : measurement.Gives "level" (.literal (.text "3.5")) := by
    simp [Insert.Gives, measurement]
  have succeeds : (plant.execute leapDay (.insert measurement)).2 = .ok (.changed 1) := by
    decide +kernel
  have bound : remeasurement.bind leapDay adjustedTanks.schema =
      .ok [.float ⟨0x3ff0000000000000⟩, .null] := by
    decide +kernel
  have refused : (plant.execute leapDay (.insert remeasurement)).2 =
      .error (.duplicateKey "tank" "level" (.float ⟨0x3ff0000000000000⟩)) := by
    decide +kernel
  have measured : plant.tables.get? measurement.table = some adjustedTanks := filed
  have remeasured : plant.tables.get? remeasurement.table = some adjustedTanks := filed
  obtain ⟨found, -⟩ := plant_reachable.inserted_found measured leapDay
  obtain ⟨row, describes, extends', shown, -⟩ := found _ gives rfl _ _ (Prod.ext rfl succeeds)
  obtain ⟨-, taken⟩ := plant_reachable.inserted_found remeasured leapDay
  exact ⟨plant_reachable, filed, gives, ⟨_, _, row, Prod.ext rfl succeeds, describes, extends',
    shown⟩, (taken _ _ bound rfl (by decide +kernel)).mp ⟨_, _, _, refused⟩⟩

end Database

end Relational
