import Relational.Proofs.Expr.Failure
import Relational.Query.Result

/-!
# Errors of an answer

Conditions on rows, select lists and aggregates are made of expressions and fail as
these do, for what they look up or for the values that they meet.
-/

namespace Relational

variable {kind : Error → Prop} {now : DateTime} {schema : Schema}

section

variable (own : Allows kind Error.isOfValues)

include own

/-- Filtering rows fails only as the condition does on one of them. -/
theorem Table.filterRows_failsOnly {condition : Expr} {entries : List (RowId × Row)}
    (each : ∀ entry ∈ entries, condition.LooksUp kind (Scope.ofRow now schema entry.2)) :
    FailsOnly kind (filterRows now schema condition entries) := by
  induction entries with
  | nil => exact .ok _
  | cons entry rest ih =>
      obtain ⟨head, tail⟩ := List.forall_mem_cons.mp each
      exact (Expr.isMet_failsOnly own head).bind fun _ _ => (ih tail).bind fun _ _ => .pure _

namespace Accumulator

/-- Only a value that is not a number is refused for a sum. -/
theorem addNumber_failsOnly {state : Accumulator} {value : Value} {error : Error}
    (failed : (state.addNumber value).2 = some error) : kind error := by
  cases value with
  | integer n => cases failed
  | float x => cases failed
  | _ =>
      cases failed
      exact own _ rfl

/-- Taking a value in fails only for the value. -/
theorem take_failsOnly {state : Accumulator} {value : Value} {error : Error}
    (failed : (state.take value).2 = some error) : kind error := by
  unfold take at failed
  dsimp only at failed
  split at failed
  · cases failed
  · exact addNumber_failsOnly own failed
  · exact addNumber_failsOnly own failed
  · cases failed
  · cases failed

/-- Feeding a value fails only for the value. -/
theorem feed_failsOnly {state : Accumulator} {value : Value} {error : Error}
    (failed : (state.feed value).2 = some error) : kind error := by
  unfold feed at failed
  split at failed
  · cases failed
  · split at failed
    · exact take_failsOnly own failed
    · split at failed
      · cases failed
      · exact take_failsOnly own failed

/-- Feeding values fails only as computing one of them does, or for a value. -/
theorem feedEach_failsOnly {α : Type} {valueOf : α → Except Error Value} {items : List α}
    (each : ∀ item ∈ items, FailsOnly kind (valueOf item)) (state : Accumulator) :
    FailsOnly kind (feedEach valueOf state items) := by
  induction items generalizing state with
  | nil => exact .ok _
  | cons item rest ih =>
      obtain ⟨head, tail⟩ := List.forall_mem_cons.mp each
      rw [feedEach]
      refine head.bind fun value _ => ?_
      split
      · exact ih tail _
      · rename_i fed
        exact .error (feed_failsOnly own (congrArg Prod.snd fed))

end Accumulator

end

namespace Select

/-- Projecting fails only as an expression does, or for a star among groups. -/
theorem project_failsOnly {scope : Scope} {items : List SelectItem}
    (starred : kind (.invalidQuery .starWithAggregation)) (row : Option Row)
    (each : ∀ expression ∈ items.filterMap SelectItem.expression?,
      FailsOnly kind (expression.evaluate scope)) : FailsOnly kind (project scope row items) := by
  induction items with
  | nil => exact .ok _
  | cons item rest ih =>
      refine FailsOnly.bind ?_ fun cells _ =>
        (ih fun expression member => ?_).bind fun _ _ => .pure _
      · cases item with
        | all =>
            cases row with
            | none => exact .error starred
            | some cells => exact .ok _
        | expression shown label =>
            exact (each shown (List.mem_filterMap.mpr ⟨_, List.mem_cons_self, rfl⟩)).bind
              fun _ _ => .pure _
      · obtain ⟨other, among, same⟩ := List.mem_filterMap.mp member
        exact each expression (List.mem_filterMap.mpr ⟨other, List.mem_cons_of_mem _ among, same⟩)

variable {query : Select} {group : Group}

/-- The steps to the result row of a group: the values of its aggregates, the cells that
it shows, and with these among the labels its filter and the values that it is sorted by. -/
theorem groupOutput_failsOnly_of
    (valued : FailsOnly kind (query.aggregates.mapM (aggregateValue now schema group.rows)))
    (shown : ∀ values, query.aggregates.mapM (aggregateValue now schema group.rows) = .ok values →
      FailsOnly kind (project (Scope.ofGroup now schema.name (query.groupBy.getD []) group.key
        query.aggregates values []) none query.items))
    (labelled : ∀ values cells,
      query.aggregates.mapM (aggregateValue now schema group.rows) = .ok values →
      project (Scope.ofGroup now schema.name (query.groupBy.getD []) group.key query.aggregates
        values []) none query.items = .ok cells →
      let scope := Scope.ofGroup now schema.name (query.groupBy.getD []) group.key
        query.aggregates values ((query.columnNames schema).zip cells)
      (∀ condition ∈ query.having, FailsOnly kind (condition.isMet scope)) ∧
        FailsOnly kind (query.sortValues scope (query.columnNames schema) cells)) :
    FailsOnly kind (groupOutput now schema query group) := by
  refine valued.bind fun values computes => (shown values computes).bind fun cells projected => ?_
  obtain ⟨filtered, sorted⟩ := labelled values cells computes projected
  have output : ∀ included : Bool, FailsOnly kind (if included = true then do
      let sortedBy ← query.sortValues (Scope.ofGroup now schema.name (query.groupBy.getD [])
        group.key query.aggregates values ((query.columnNames schema).zip cells))
        (query.columnNames schema) cells
      pure (some (OutputRow.mk sortedBy cells))
    else pure none) := by
    intro included
    split
    · exact sorted.bind fun _ _ => .pure _
    · exact .pure _
  dsimp only
  split
  · rename_i condition filter
    exact (filtered condition filter).bind fun included _ => output included
  · exact output true

end Select

end Relational
