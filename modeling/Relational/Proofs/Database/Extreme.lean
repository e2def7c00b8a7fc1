import Relational.Proofs.Database.Grouping
import Relational.Proofs.Query.Extreme

/-!
# The extreme of a column and its ordered listing

The least cell of a column is the first one other than null in the ascending listing
of the column, and the greatest one the first in the descending listing, even where
cells that differ are level, such as the zeros of both signs.
-/

namespace Relational

namespace Database

open Accumulator

variable {now : DateTime} {database : Database} {name column : String} {table : Table}
  {condition : Option Expr} {ascending : Bool} {shown : Outcome}

/-- If the cells of a column without a NaN can be listed in order, the query for the
extreme finds the cell that the listing begins with but for nulls. -/
theorem Reachable.extreme_heads_listing (reachable : database.Reachable)
    (filed : database.tables.get? name = some table)
    (numbers : ∀ entry ∈ table.rows, (entry.2.cellOf table.schema column).isNaN = false)
    (lists : database.query now (.select (.listed name column condition ascending)) =
      .ok shown) :
    ∃ cells : List Value, shown = .rows [column] (cells.map fun cell => [cell]) ∧
      database.query now (.select (.extreme name column condition ascending)) =
        .ok (.rows [(Expr.aggregate (seeking ascending) (some (.column column)) false).text]
          [[(cells.find? fun cell => !cell.isNull).getD .null]]) := by
  have wellTyped := reachable.sound.wellTyped name table filed
  obtain ⟨_, looked, lists⟩ := bind_eq_ok.mp lists
  cases filed.symm.trans (table_eq_ok_iff.mp looked)
  obtain ⟨bound, binds, lists⟩ := bind_eq_ok.mp lists
  obtain ⟨rows, answers, result⟩ := bind_eq_ok.mp lists
  obtain ⟨located, coerced, coerces, rfl, binds'⟩ := Select.bind_extreme binds
  obtain ⟨found, finds, -⟩ := bind_eq_ok.mp answers
  have among : ∀ entry ∈ found, entry ∈ table.rows :=
    fun entry member => Table.mem_of_matchingRows wellTyped.toSound finds member
  have typed : ∀ entry ∈ found, Row.Typed table.schema.columns entry.2 :=
    fun entry member => wellTyped.typed entry (among entry member)
  have sortable : Value.Sortable (found.map fun entry => entry.2.cellOf table.schema column) := by
    obtain ⟨type, fits⟩ := Row.exists_type located
    apply Value.Sortable.of_fits
    · exact List.forall_mem_map.mpr fun entry member => fits entry.2 (typed entry member)
    · exact List.forall_mem_map.mpr fun entry member => numbers entry (among entry member)
  cases result
  cases answers.symm.trans (Select.answer_listed typed located finds)
  refine ⟨_, rfl, ?_⟩
  have answers : (Select.extreme name column coerced ascending).answer now table = .ok _ :=
    Select.answer_extreme typed located finds
  rw [result_seeking ascending sortable] at answers
  have shows : database.query now (.select (.extreme name column condition ascending)) =
      .ok (.rows ((Select.extreme name column coerced ascending).columnNames table.schema) _) :=
    query_eq_ok filed binds' answers
  exact shows

/-- The heights from the least to the greatest. -/
def ascent : Outcome :=
  .rows ["height"] [[.null], [.null], [.float ⟨0x8000000000000000⟩], [.float ⟨0⟩],
    [.float ⟨0x3ff8000000000000⟩], [.float ⟨0x3ff8000000000000⟩]]

/-- The heights are listed with the unknown ones first and zeros in the order of the
rows. -/
theorem query_ascent : survey.query leapDay (.select (.listed "level" "height" none true)) =
    .ok ascent := by
  have filed : survey.tables.get? "level" = some surveyed := by decide +kernel
  have typed : ∀ entry ∈ surveyed.rows, Row.Typed surveyed.schema.columns entry.2 :=
    (survey_reachable.sound.wellTyped "level" surveyed filed).typed
  have sorts : ((surveyed.rows.map fun entry => entry.2.cellOf surveyed.schema "height").mergeSort
      fun a b => Value.directed true a b != .gt).map (fun cell => [cell]) =
        [[.null], [.null], [.float ⟨0x8000000000000000⟩], [.float ⟨0⟩],
          [.float ⟨0x3ff8000000000000⟩], [.float ⟨0x3ff8000000000000⟩]] := by
    simp +decide [surveyed, keyedTable, List.mergeSort]
  have answers : (Select.listed "level" "height" none true).answer leapDay surveyed = .ok _ :=
    Select.answer_listed typed rfl rfl
  rw [sorts] at answers
  have shows : survey.query leapDay (.select (.listed "level" "height" none true)) =
      .ok (.rows ((Select.listed "level" "height" none true).columnNames surveyed.schema) _) :=
    query_eq_ok filed rfl answers
  exact shows

/-- Of the zeros of both signs, the first in the table is the least height. -/
theorem survey_least :
    survey.Reachable ∧ survey.tables.get? "level" = some surveyed ∧
      (∀ entry ∈ surveyed.rows, (entry.2.cellOf surveyed.schema "height").isNaN = false) ∧
      survey.query leapDay (.select (.listed "level" "height" none true)) = .ok ascent ∧
      survey.query leapDay (.select (.extreme "level" "height" none true)) =
        .ok (.rows ["MIN(height)"] [[.float ⟨0x8000000000000000⟩]]) := by
  have filed : survey.tables.get? "level" = some surveyed := by decide +kernel
  have numbers : ∀ entry ∈ surveyed.rows,
      (entry.2.cellOf surveyed.schema "height").isNaN = false := by
    decide
  refine ⟨survey_reachable, filed, numbers, query_ascent, ?_⟩
  obtain ⟨cells, listing, finds⟩ :=
    survey_reachable.extreme_heads_listing filed numbers query_ascent
  have listing : cells = [.null, .null, .float ⟨0x8000000000000000⟩, .float ⟨0⟩,
      .float ⟨0x3ff8000000000000⟩, .float ⟨0x3ff8000000000000⟩] := by
    have flat := congrArg List.flatten (Outcome.rows.inj listing).2
    have single : (cells.map fun cell => [cell]).flatten = cells := List.flatMap_singleton' cells
    rw [single] at flat
    exact flat.symm
  rw [listing] at finds
  exact finds

end Database

end Relational
