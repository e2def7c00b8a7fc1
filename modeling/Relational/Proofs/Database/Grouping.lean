import Relational.Proofs.Database.Insertion
import Relational.Proofs.Query.Counting

/-!
# Counting by hand

A query that counts rows by some columns shows one row for each class of the rows
that meet its condition, in the order in which the classes begin, with the cells
of the class's first row and the number of its rows.  `HAVING` leaves out the
classes that are too small, and without it the counts add up to the count of all
rows that meet the condition, which is the number of rows that the query for these
rows shows.
-/

namespace Relational

namespace Database

variable {now : DateTime} {database : Database} {name : String} {table : Table}
  {condition coerced : Expr} {columns : List String} {shown : Outcome}

/-- A query on a table that is filed shows what its bound form answers there. -/
theorem query_eq_ok {query bound : Select} {rows : List Row}
    (filed : database.tables.get? query.table = some table)
    (binds : query.bind table.schema = .ok bound) (answers : bound.answer now table = .ok rows) :
    database.query now (.select query) = .ok (.rows (bound.columnNames table.schema) rows) :=
  bind_eq_ok.mpr ⟨table, table_eq_ok_iff.mpr filed, bind_eq_ok.mpr ⟨bound, binds,
    bind_eq_ok.mpr ⟨rows, answers, rfl⟩⟩⟩

/-- Counting by columns that exist, under a condition that binds, shows the
classes with great enough counts. -/
theorem query_counts_by {found : List (RowId × Row)} (least : Option Int64)
    (filed : database.tables.get? name = some table)
    (known : condition.checkColumns table.schema [] = .ok ())
    (plain : condition.rejectAggregates "WHERE" = .ok ())
    (located : ∀ column ∈ columns, (table.schema.position? column).isSome)
    (coerces : Expr.coerceLiterals table.schema condition = .ok coerced)
    (finds : table.matchingRows now (some coerced) = .ok found)
    (typed : ∀ entry ∈ found, Row.Typed table.schema.columns entry.2) :
    database.query now (.select (.counts name condition (some columns) least)) =
      .ok (.rows (columns ++ ["COUNT(*)"]) (((firsts table.schema columns found).filter fun first =>
        passes least (classCount table.schema columns found first.2)).map fun first =>
          classRow table.schema columns found first.2)) := by
  obtain ⟨positions, positioned⟩ := Schema.exists_positions located
  have binds : (Select.counts name condition (some columns) least).bind table.schema =
      .ok (.counts name coerced (some columns) least) :=
    Select.bind_counts_eq_ok.mpr ⟨known, plain, located, coerced, coerces, rfl⟩
  have shows := query_eq_ok filed binds (Select.answer_counts_by positioned finds typed)
  rwa [Select.columnNames_counts] at shows

/-- Some rows represent the classes of others: they are among these in the same
order, each begins its class, and every row is in one of the classes. -/
structure Represent (schema : Schema) (columns : List String) (found first : List (RowId × Row)) :
    Prop where
  sequence : first.Sublist found
  begins : ∀ entry ∈ first, (classOf schema columns found entry.2).head? = some entry
  once : ∀ entry ∈ found, ∃! other, other ∈ first ∧ entry.2.GroupsWith schema columns other.2

/-- What a query for the large classes of the rows that meet a condition comes to,
and what the query for all classes, the count of the rows and the query for the
rows come to beside it. -/
structure CountsByHand (database : Database) (now : DateTime) (name : String) (table : Table)
    (condition coerced : Expr) (columns : List String) (least : Int64) (shown : Outcome)
    (found first : List (RowId × Row)) : Prop where
  coerces : Expr.coerceLiterals table.schema condition = .ok coerced
  located : ∀ column ∈ columns, (table.schema.position? column).isSome
  meets : found = table.rows.filter fun entry => entry.2.meets now table.schema (some coerced)
  ordered : Ascending found
  represent : Represent table.schema columns found first
  filtered : shown = .rows (columns ++ ["COUNT(*)"]) ((first.filter fun entry =>
    least.toInt < (classCount table.schema columns found entry.2).toInt).map fun entry =>
      classRow table.schema columns found entry.2)
  unfiltered : database.query now (.select (.counts name condition (some columns) none)) =
    .ok (.rows (columns ++ ["COUNT(*)"]) (first.map fun entry =>
      classRow table.schema columns found entry.2))
  counted : database.query now (.select (.counts name condition none none)) =
    .ok (.rows ["COUNT(*)"] [[.integer (Int64.ofNat found.length)]])
  listed : database.query now (.select (.allWhere name condition)) =
    .ok (.rows table.schema.columnNames (found.map Prod.snd))
  sum : (first.map fun entry => (classOf table.schema columns found entry.2).length).sum =
    found.length
  exact : found.length < 2 ^ 63 → (Int64.ofNat found.length).toInt = found.length ∧
    (∀ row, (classCount table.schema columns found row).toInt =
      (classOf table.schema columns found row).length) ∧
    (first.map fun entry => (classCount table.schema columns found entry.2).toInt).sum =
      (Int64.ofNat found.length).toInt

/-- Counting the rows of a table by groups agrees with counting them by hand. -/
theorem Reachable.groups_counted (reachable : database.Reachable)
    (filed : database.tables.get? name = some table) {least : Int64}
    (answers : database.query now
      (.select (.counts name condition (some columns) (some least))) = .ok shown) :
    ∃ coerced found first, database.CountsByHand now name table condition coerced columns least
      shown found first := by
  have wellTyped := reachable.sound.wellTyped name table filed
  have succeeds := answers
  obtain ⟨_, looked, answers⟩ := bind_eq_ok.mp answers
  cases filed.symm.trans (table_eq_ok_iff.mp looked)
  obtain ⟨bound, binds, answers⟩ := bind_eq_ok.mp answers
  obtain ⟨rows, answers, -⟩ := bind_eq_ok.mp answers
  obtain ⟨known, plain, located, coerced, coerces, rfl⟩ := Select.bind_counts_eq_ok.mp binds
  obtain ⟨found, finds, -⟩ := bind_eq_ok.mp answers
  have typed : ∀ entry ∈ found, Row.Typed table.schema.columns entry.2 := fun entry member =>
    wellTyped.typed entry (Table.mem_of_matchingRows wellTyped.toSound finds member)
  rw [Option.getD_some] at located
  have converted : Expr.coerceCondition table.schema (some condition) = .ok (some coerced) :=
    bind_eq_ok.mpr ⟨coerced, coerces, rfl⟩
  have meets : found = table.rows.filter fun entry =>
      entry.2.meets now table.schema (some coerced) :=
    Table.matchingRows_eq wellTyped.toSound wellTyped.typed converted finds
  have shows := fun least => query_counts_by least filed known plain located coerces finds typed
  refine ⟨coerced, found, firsts table.schema columns found, ?_⟩
  constructor
  · exact coerces
  · exact located
  · exact meets
  · rw [meets]
    exact wellTyped.ascending.filter _
  · exact ⟨firsts_sublist _ _ _, fun _ => head_classOf, fun _ => existsUnique_first⟩
  · exact Except.ok.inj (succeeds.symm.trans (shows (some least)))
  · have unfiltered := shows none
    simp only [passes, Option.all_none, List.filter_true] at unfiltered
    exact unfiltered
  · have binds : (Select.counts name condition none none).bind table.schema =
        .ok (.counts name coerced none none) :=
      Select.bind_counts_eq_ok.mpr ⟨known, plain, List.forall_mem_nil _, coerced, coerces, rfl⟩
    exact query_eq_ok filed binds (Select.answer_counts_all finds)
  · have listed := query_eq_ok filed (Select.bind_allWhere_eq known plain coerces)
      (Select.answer_allWhere_eq finds)
    rwa [show (Select.allWhere name coerced).columnNames table.schema = table.schema.columnNames
      from List.append_nil _] at listed
  · exact sum_length_classOf table.schema columns found
  · intro few
    have total := toInt_ofNat_of_le le_rfl few
    exact ⟨total, fun row => toInt_classCount row few, (sum_classCount few).trans total.symm⟩

/-! ### Levels that occur more than once -/

/-- Levels, some unknown, and zeros of both signs among them. -/
def surveyed : Table :=
  keyedTable ⟨"level", [⟨"id", .integer, true, none⟩, ⟨"height", .float, false, none⟩], []⟩ 7
    [(1, [.integer 1, .float ⟨0x8000000000000000⟩]), (2, [.integer 2, .null]),
      (3, [.integer 3, .float ⟨0x3ff8000000000000⟩]), (4, [.integer 4, .float ⟨0⟩]),
      (5, [.integer 5, .null]), (6, [.integer 6, .float ⟨0x3ff8000000000000⟩])]

/-- A database of that table. -/
def survey : Database :=
  ⟨"survey", ⟨[("level", surveyed)]⟩⟩

/-- Statements that make the table and fill it. -/
def surveying : List Statement :=
  let level (id : Int64) (height : Value) : Statement :=
    .insert ⟨"level", ["id", "height"], [.literal (.integer id), .literal height]⟩
  [.createTable surveyed.schema, level 1 (.float ⟨0x8000000000000000⟩), level 2 .null,
    level 3 (.float ⟨0x3ff8000000000000⟩), level 4 (.integer 0), level 5 .null,
    level 6 (.text "1.5")]

/-- The survey is made by its statements. -/
theorem survey_reachable : survey.Reachable := by
  have made : executeAll leapDay (empty "survey") surveying = survey := by decide +kernel
  have valid : ∀ statement ∈ surveying, statement.Valid := by
    have schema : surveyed.schema.Valid := ⟨by decide, by decide⟩
    simp [surveying, Statement.Valid, schema]
  rw [← made]
  exact (Reachable.empty "survey").executeAll leapDay valid

/-- The levels before the last one. -/
def beforeLast : Expr :=
  .binary .less (.column "id") (.literal (.text "6"))

/-- Zeros of both signs are counted in one group, and unknown heights in another one. -/
theorem survey_counted :
    survey.Reachable ∧ survey.tables.get? "level" = some surveyed ∧
      survey.query leapDay (.select (.counts "level" beforeLast (some ["height", "height"])
        (some 1))) = .ok (.rows ["height", "height", "COUNT(*)"]
          [[.float ⟨0x8000000000000000⟩, .float ⟨0x8000000000000000⟩, .integer 2],
            [.null, .null, .integer 2]]) ∧
      ∃ coerced found first, survey.CountsByHand leapDay "level" surveyed beforeLast coerced
        ["height", "height"] 1 (.rows ["height", "height", "COUNT(*)"]
          [[.float ⟨0x8000000000000000⟩, .float ⟨0x8000000000000000⟩, .integer 2],
            [.null, .null, .integer 2]]) found first := by
  have filed : survey.tables.get? "level" = some surveyed := by decide +kernel
  have answers : survey.query leapDay (.select (.counts "level" beforeLast
      (some ["height", "height"]) (some 1))) = .ok (.rows ["height", "height", "COUNT(*)"]
        [[.float ⟨0x8000000000000000⟩, .float ⟨0x8000000000000000⟩, .integer 2],
          [.null, .null, .integer 2]]) := by
    decide +kernel
  exact ⟨survey_reachable, filed, answers, survey_reachable.groups_counted filed answers⟩

end Database

end Relational
