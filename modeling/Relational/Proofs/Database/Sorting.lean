import Relational.Proofs.Database.Grouping
import Relational.Proofs.Query.Answer

/-!
# Sorting and leafing through a result

A query with an order shows the rows that it shows without one.  If the values that
each of its criteria sorts by are comparable, the rows are in the order of their
criteria, and level rows are in the order in which they are shown without one.
Asked for in pages of any size, the result comes in parts, each row once.
-/

namespace Relational

namespace Database

variable {now : DateTime} {database : Database} {query : Select} {table : Table}
  {items : List SortItem} {shown : Outcome}

/-- What a query with an order comes to, and what the query without the order and
the queries for its pages come to beside it. -/
structure Sorts (database : Database) (now : DateTime) (query : Select) (table : Table)
    (items : List SortItem) (shown : Outcome) (condition : Option Expr)
    (found : List (RowId × Row)) (results : List (Option OutputRow)) (sorted : List OutputRow) :
    Prop where
  coerces : Expr.coerceCondition table.schema query.condition = .ok condition
  meets : found = table.rows.filter fun entry => entry.2.meets now table.schema condition
  stem : (query.origins table.schema found).mapM (query.outputOf now table.schema found) =
    .ok results
  keyed : List.Forall₂ (fun origin result => ∀ output ∈ result,
    query.Keyed table.schema items origin output) (query.origins table.schema found) results
  result : shown = .rows (query.columnNames table.schema) (sorted.map OutputRow.cells)
  unordered : database.query now (.select { query with orderBy := none }) =
    .ok (.rows (query.columnNames table.schema) (results.reduceOption.map OutputRow.cells))
  ordered : (∀ position : Nat, Value.Sortable
    (results.reduceOption.filterMap fun output => output.sortedBy[position]?)) →
      OutputRow.Sorted items results.reduceOption sorted
  paged : ∀ size, 0 < size → ∃ pages : List (List Row),
    pages.flatten = sorted.map OutputRow.cells ∧ (∀ page ∈ pages, page ≠ []) ∧
      ∀ number, database.query now
        (.select { query with limit := some size, offset := some (number * size) }) =
          .ok (.rows (query.columnNames table.schema) (pages.getD number []))

section Variants

variable {bound : Select} {found : List (RowId × Row)} {outputs : List OutputRow}
  (filed : database.tables.get? query.table = some table)
  (binds : query.bind table.schema = .ok bound)
  (finds : table.matchingRows now bound.condition = .ok found)
  (projected : bound.outputRows now table.schema found = .ok outputs)

include filed binds finds projected

/-- Without an order a query shows its rows as they were found. -/
theorem query_unordered (unlimited : bound.limit = none) (whole : bound.offset = none) :
    database.query now (.select { query with orderBy := none }) =
      .ok (.rows (bound.columnNames table.schema) (outputs.map OutputRow.cells)) := by
  have answers := Select.answer_unordered finds projected unlimited whole
  have shows : database.query now (.select { query with orderBy := none }) =
      .ok (.rows (({ bound with orderBy := none } : Select).columnNames table.schema) _) :=
    query_eq_ok filed (Select.bind_unordered binds) answers
  exact shows

/-- A page of a query is a stretch of its ordered rows. -/
theorem query_page (ordered : bound.orderBy = some items) (limit offset : Nat) :
    database.query now (.select { query with limit := some limit, offset := some offset }) =
      .ok (.rows (bound.columnNames table.schema)
        ((((OutputRow.sort items outputs).map OutputRow.cells).drop offset).take limit)) := by
  have answers := Select.answer_page finds projected ordered limit offset
  have shows : database.query now
      (.select { query with limit := some limit, offset := some offset }) =
        .ok (.rows (({ bound with limit := some limit, offset := some offset } :
          Select).columnNames table.schema) _) :=
    query_eq_ok filed (Select.bind_page binds _ _) answers
  exact shows

end Variants

/-- The answer to a query with an order is the answer without it, sorted, and its
pages are the parts of it. -/
theorem Reachable.query_sorts (reachable : database.Reachable)
    (filed : database.tables.get? query.table = some table) (ordered : query.orderBy = some items)
    (unlimited : query.limit = none) (whole : query.offset = none)
    (answers : database.query now (.select query) = .ok shown) :
    ∃ condition found results sorted,
      database.Sorts now query table items shown condition found results sorted := by
  have wellTyped := reachable.sound.wellTyped query.table table filed
  obtain ⟨_, looked, answers⟩ := bind_eq_ok.mp answers
  cases filed.symm.trans (table_eq_ok_iff.mp looked)
  obtain ⟨bound, binds, answers⟩ := bind_eq_ok.mp answers
  obtain ⟨rows, answers, result⟩ := bind_eq_ok.mp answers
  obtain ⟨found, outputs, finds, projected, sorts⟩ := Select.answer_eq_ok.mp answers
  obtain ⟨-, -, condition, coerces, rfl⟩ := Select.condition_of_bind binds
  have typed : ∀ entry ∈ found, Row.Typed table.schema.columns entry.2 := fun entry member =>
    wellTyped.typed entry (Table.mem_of_matchingRows wellTyped.toSound finds member)
  obtain ⟨results, stem, rfl⟩ := Select.exists_outputs typed projected
  -- Neither the origins nor what stems from them depend on the condition.
  have stem : (query.origins table.schema found).mapM (query.outputOf now table.schema found) =
      .ok results := stem
  have keyed := (mapM_eq_ok.mp stem).imp
    fun origin result shows output (member : output ∈ result) =>
      Select.keyed_of_outputOf (shows.trans (congrArg _ member))
  rw [ordered, Option.getD_some] at keyed
  have sorts : rows = (OutputRow.sort items results.reduceOption).map OutputRow.cells := by
    rw [sorts, ordered]
    unfold Select.page
    simp only [whole, unlimited, Option.getD_none, List.drop_zero, Option.elim_some]
  cases result
  refine ⟨condition, found, results, OutputRow.sort items results.reduceOption, ?_⟩
  constructor
  · exact coerces
  · exact Table.matchingRows_eq wellTyped.toSound wellTyped.typed coerces finds
  · exact stem
  · exact keyed
  · rw [sorts]
    rfl
  · have shows := query_unordered filed binds finds projected unlimited whole
    exact shows
  · exact Select.sort_keyed keyed
  · intro size positive
    obtain ⟨pages, together, filled, each⟩ := exists_pages positive rows
    rw [sorts] at together each
    refine ⟨pages, together, filled, fun number => ?_⟩
    have shows := query_page filed binds finds projected ordered size (number * size)
    rw [each]
    exact shows

/-- The query for all heights under a name of their own, the greatest first. -/
def byHeight : Select :=
  ⟨[.expression (.column "height") (some "h")], "level", none, none, none,
    some [⟨"height", false⟩, ⟨"h", true⟩], none, none⟩

/-- The levels with the values that they are sorted by. -/
def heights : List OutputRow :=
  surveyed.rows.map fun entry =>
    let height := entry.2.cellOf surveyed.schema "height"
    ⟨[height, height], [height]⟩

/-- What the query shows: the zeros, one of each sign, stay in their order. -/
def descent : Outcome :=
  .rows ["h"] [[.float ⟨0x3ff8000000000000⟩], [.float ⟨0x3ff8000000000000⟩],
    [.float ⟨0x8000000000000000⟩], [.float ⟨0⟩], [.null], [.null]]

/-- The heights are shown from the greatest to the least, with the unknown ones last. -/
theorem query_byHeight : survey.query leapDay (.select byHeight) = .ok descent := by
  have filed : survey.tables.get? "level" = some surveyed := by decide +kernel
  have sorts : (OutputRow.sort [⟨"height", false⟩, ⟨"h", true⟩] heights).map OutputRow.cells =
      [[.float ⟨0x3ff8000000000000⟩], [.float ⟨0x3ff8000000000000⟩],
        [.float ⟨0x8000000000000000⟩], [.float ⟨0⟩], [.null], [.null]] := by
    simp +decide [OutputRow.sort, heights, surveyed, keyedTable, List.mergeSort]
  have answers : byHeight.answer leapDay surveyed = .ok [[.float ⟨0x3ff8000000000000⟩],
      [.float ⟨0x3ff8000000000000⟩], [.float ⟨0x8000000000000000⟩], [.float ⟨0⟩], [.null],
      [.null]] :=
    Select.answer_eq_ok.mpr ⟨surveyed.rows, heights, rfl, rfl, sorts.symm⟩
  exact query_eq_ok filed rfl answers

/-- The survey is sorted by height, the greatest first and the unknown ones last. -/
theorem survey_sorted :
    survey.Reachable ∧ survey.tables.get? "level" = some surveyed ∧
      survey.query leapDay (.select byHeight) = .ok descent ∧
      ∃ condition found results sorted, survey.Sorts leapDay byHeight surveyed
        [⟨"height", false⟩, ⟨"h", true⟩] descent condition found results sorted ∧
        OutputRow.Sorted [⟨"height", false⟩, ⟨"h", true⟩] results.reduceOption sorted := by
  have filed : survey.tables.get? "level" = some surveyed := by decide +kernel
  obtain ⟨condition, found, results, sorted, sorts⟩ :=
    survey_reachable.query_sorts filed rfl rfl rfl query_byHeight
  refine ⟨survey_reachable, filed, query_byHeight, condition, found, results, sorted, sorts, ?_⟩
  have free : condition = none := by
    cases sorts.coerces
    rfl
  have everything : found = surveyed.rows := by
    rw [sorts.meets, free]
    rfl
  have shown : results = heights.map some := by
    have stem := sorts.stem
    rw [everything] at stem
    cases stem
    rfl
  apply sorts.ordered
  rw [shown]
  intro position
  have keys : ∀ output ∈ heights, ∀ key ∈ output.sortedBy,
      key.Fits .float ∧ key.isNaN = false := by decide
  have keys : ∀ key ∈ (heights.map some).reduceOption.filterMap fun output =>
      output.sortedBy[position]?, key.Fits .float ∧ key.isNaN = false := by
    intro key member
    obtain ⟨output, among, held⟩ := List.mem_filterMap.mp member
    have among : output ∈ heights := by simpa [List.reduceOption] using among
    exact keys output among key (List.mem_of_getElem? held)
  apply Value.Sortable.of_fits
  · exact fun key member => (keys key member).1
  · exact fun key member => (keys key member).2

end Database

end Relational
