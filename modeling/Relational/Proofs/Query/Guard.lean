import Relational.Proofs.Expr.WellFormed
import Relational.Proofs.Query.Grouping
import Relational.Proofs.Query.Resolution
import Relational.Proofs.Table.WellTyped

/-!
# What an answer is guarded against

Two classes of errors should never occur in an answer.  A query looks cells up by their
positions: those of a row, of the key of a group, of the aggregates of a group and of a
result row.  Each position was found in a list that names what stands there, and each list
of cells is as long as the list of its names, if only the rows are as wide as the schema.
And it evaluates expressions, which do not fail for their form if they are well formed.
Each lemma is about an arbitrary kind of errors that has all others: it has those of a
class as well, or what guards against the class is given.
-/

namespace Relational

variable {kind : Error → Prop} {position : Nat}

/-! ### Lists of cells and columns -/

/-- A cell is found at a position inside of the row. -/
theorem Row.cell_failsOnly {row : Row}
    (places : Allows kind Error.isOutOfRange ∨ position < row.length) :
    FailsOnly kind (Row.cell row position) := by
  unfold Row.cell
  split
  · exact .ok _
  · rename_i absent
    have outside := List.getElem?_eq_none_iff.mp absent
    exact .error (places.resolve_right (by omega) _ rfl)

namespace Schema

variable {schema : Schema}

/-- A column is found at a position inside of the schema. -/
theorem columnAt_failsOnly
    (places : Allows kind Error.isOutOfRange ∨ position < schema.columns.length) :
    FailsOnly kind (schema.columnAt position) := by
  unfold columnAt
  split
  · exact .ok _
  · rename_i absent
    have outside := List.getElem?_eq_none_iff.mp absent
    exact .error (places.resolve_right (by omega) _ rfl)

/-- Looking for a column fails only with the error that there is none. -/
theorem position_failsOnly (general : Allows kind Error.isGeneral) (schema : Schema)
    (column : String) : FailsOnly kind (schema.position column) := by
  unfold Schema.position
  split
  · exact .ok _
  · exact .error (general _ rfl)

theorem position_lt {column : String} (located : schema.position column = .ok position) :
    position < schema.columns.length :=
  position?_lt (position_eq_ok_iff.mp located)

end Schema

/-- The key of a group has a cell for each grouped column, and each aggregate has a
value. -/
theorem Scope.ofGroup_answers (general : Allows kind Error.isGeneral) {now : DateTime}
    {groupedBy : List String} {key values : List Value} {calls : List Expr}
    (keyed : Allows kind Error.isOutOfRange ∨ groupedBy.length = key.length)
    (valued : calls.length = values.length) (table : String) (labels : List (String × Value)) :
    (Scope.ofGroup now table groupedBy key calls values labels).Answers kind := by
  unfold Scope.ofGroup
  refine ⟨fun name => ?_, fun call => ?_⟩
  · dsimp only
    split
    · rename_i found
      have inside := (List.findIdx?_eq_some_iff_getElem.mp found).1
      exact Row.cell_failsOnly (keyed.imp_right inside.trans_eq)
    · split
      · exact .ok _
      · exact .error (general _ rfl)
  · dsimp only
    split
    · rename_i found
      have inside := (List.findIdx?_eq_some_iff_getElem.mp found).1
      exact Row.cell_failsOnly (.inr (inside.trans_eq valued))
    · exact noAggregate_failsOnly general call

/-- Grouping rows fails only for a cell that is out of range. -/
theorem Group.extend_failsOnly (places : Allows kind Error.isOutOfRange) (positions : List Nat)
    (groups : List Group) (rows : List (RowId × Row)) :
    FailsOnly kind (extend positions groups rows) := by
  induction rows generalizing groups with
  | nil => exact .ok _
  | cons entry rest ih =>
      exact (FailsOnly.mapM fun position _ => Row.cell_failsOnly (.inl places)).bind
        fun cells _ => ih _

/-! ### Answers -/

/-- Looking for rows fails only with general errors if the condition is well formed. -/
theorem Table.matchingRows_failsOnly (general : Allows kind Error.isGeneral) (now : DateTime)
    (table : Table) {condition : Option Expr}
    (form : Allows kind Error.isOfForm ∨ ∀ expression ∈ condition, expression.WellFormed) :
    FailsOnly kind (table.matchingRows now condition) := by
  unfold Table.matchingRows
  dsimp only
  split
  · exact .ok _
  · exact Table.filterRows_failsOnly general.ofValues fun entry _ =>
      (Scope.ofRow_answers general now table.schema entry.2).looksUp
        (form.imp_right fun formed => formed _ rfl)

namespace Select

variable {now : DateTime} {schema : Schema} {query : Select} {row : Row}
  {rows : List (RowId × Row)} {cells : List Value} {scope : Scope}

/-- The expressions of a query are well formed. -/
structure WellFormed (query : Select) : Prop where
  shown : ∀ expression ∈ query.shown, expression.WellFormed
  condition : ∀ expression ∈ query.condition, expression.WellFormed
  having : ∀ expression ∈ query.having, expression.WellFormed

/-- What stands in an aggregate of a well-formed query is well formed. -/
theorem WellFormed.argument (formed : query.WellFormed) {function : AggregateFunction}
    {argument : Expr} {distinct : Bool}
    (member : .aggregate function (some argument) distinct ∈ query.aggregates) :
    argument.WellFormed := by
  obtain ⟨expression, among, inside, -⟩ := exists_of_mem_aggregates member
  have whole : expression.WellFormed := by
    rcases List.mem_append.mp among with shown | filtered
    · exact formed.shown expression shown
    · exact formed.having expression (Option.mem_toList.mp filtered)
  cases (Expr.FormedPart.formed whole).of_mem_nodes inside with
  | formed call =>
      cases call with
      | aggregate inner => exact inner

/-- A result row has a cell for each column that a criterion may name. -/
theorem sortValues_failsOnly (answers : scope.Answers kind) {columns : List String}
    (wide : Allows kind Error.isOutOfRange ∨ cells.length = columns.length) :
    FailsOnly kind (query.sortValues scope columns cells) := by
  refine FailsOnly.mapM fun item _ => ?_
  unfold sortValue
  split
  · rename_i found
    have inside := (List.findIdx?_eq_some_iff_getElem.mp found).1
    exact Row.cell_failsOnly (wide.imp_right fun wide => inside.trans_eq wide.symm)
  · exact answers.column item.column

section

variable (general : Allows kind Error.isGeneral)

include general

/-- The select list fails only with what its scope answers if it is well formed. -/
theorem shown_failsOnly (answers : scope.Answers kind)
    (form : Allows kind Error.isOfForm ∨ query.WellFormed) (row : Option Row) :
    FailsOnly kind (project scope row query.items) :=
  project_failsOnly (general _ rfl) row fun expression member =>
    answers.evaluate general (form.imp_right fun formed => formed.shown expression member)

/-- The row of a well-formed query fails only with general errors if the row that it stems
from is as wide as the schema. -/
theorem rowOutput_failsOnly (form : Allows kind Error.isOfForm ∨ query.WellFormed)
    (width : Allows kind Error.isOutOfRange ∨ row.length = schema.columns.length) :
    FailsOnly kind (rowOutput now schema query row) := by
  have answers := Scope.ofRow_answers general now schema row
  refine (shown_failsOnly general answers form (some row)).bind fun cells projected => ?_
  have wide : Allows kind Error.isOutOfRange ∨
      cells.length = (query.columnNames schema).length :=
    width.imp_right fun width => length_of_project (by simpa using width) projected
  exact (sortValues_failsOnly answers wide).bind fun _ _ => .pure _

/-- The aggregates of a well-formed query fail only with general errors. -/
theorem aggregateValue_failsOnly (form : Allows kind Error.isOfForm ∨ query.WellFormed)
    {call : Expr} (member : call ∈ query.aggregates) :
    FailsOnly kind (aggregateValue now schema rows call) := by
  cases call with
  | aggregate function argument distinct =>
      refine FailsOnly.bind (Accumulator.feedEach_failsOnly general.ofValues
        (fun entry _ => ?_) _) fun _ _ => .pure _
      cases argument with
      | none => exact .ok _
      | some argument =>
          exact (Scope.ofRow_answers general now schema entry.2).evaluate general
            (form.imp_right fun formed => formed.argument member)
  | _ => exact .error (general _ rfl)

/-- The group of a well-formed query fails only with general errors if its key has a cell
for each column. -/
theorem groupOutput_failsOnly (form : Allows kind Error.isOfForm ∨ query.WellFormed)
    {group : Group} (keyed : Allows kind Error.isOutOfRange ∨
      (query.groupBy.getD []).length = group.key.length) :
    FailsOnly kind (groupOutput now schema query group) := by
  have answers : ∀ values,
      query.aggregates.mapM (aggregateValue now schema group.rows) = .ok values → ∀ labels,
        (Scope.ofGroup now schema.name (query.groupBy.getD []) group.key query.aggregates values
          labels).Answers kind :=
    fun values computes => Scope.ofGroup_answers general keyed
      (mapM_eq_ok.mp computes).length_eq schema.name
  refine groupOutput_failsOnly_of
    (FailsOnly.mapM fun call member => aggregateValue_failsOnly general form member)
    (fun values computes => shown_failsOnly general (answers values computes []) form none)
    fun values cells computes projected => ⟨fun condition filter => ?_, ?_⟩
  · exact (answers values computes _).isMet general
      (form.imp_right fun formed => formed.having condition filter)
  · have wide : cells.length = (query.columnNames schema).length :=
      length_of_project (by simp) projected
    exact sortValues_failsOnly (answers values computes _) (.inr wide)

end

/-- The key of a group has a cell for each column of `GROUP BY`. -/
theorem length_key_of_groups {formed : List Group}
    (typed : ∀ entry ∈ rows, Row.Typed schema.columns entry.2)
    (forms : query.groups schema rows = .ok formed) {group : Group} (member : group ∈ formed) :
    (query.groupBy.getD []).length = group.key.length := by
  unfold groups at forms
  split at forms
  · rename_i columns grouped
    obtain ⟨positions, located, parts⟩ := bind_eq_ok.mp forms
    rw [Group.partition_eq located typed] at parts
    cases parts
    obtain ⟨first, -, rfl⟩ := List.mem_map.mp member
    rw [grouped, Option.getD_some, List.length_map]
  · rename_i grouped
    cases forms
    rw [List.mem_singleton.mp member, grouped]
    rfl

section

variable (general : Allows kind Error.isGeneral)

include general

/-- Forming groups fails only with general errors if the rows conform to the schema. -/
theorem groups_failsOnly (typed : Allows kind Error.isOutOfRange ∨
      ∀ entry ∈ rows, Row.Typed schema.columns entry.2) :
    FailsOnly kind (query.groups schema rows) := by
  unfold groups
  split
  · refine (FailsOnly.mapM fun column _ => schema.position_failsOnly general column).bind
      fun positions located => ?_
    rcases typed with places | typed
    · exact Group.extend_failsOnly places positions [] rows
    · rw [Group.partition_eq located typed]
      exact .ok _
  · exact .ok _

/-- The rows of a well-formed query fail only with general errors if the rows found conform
to the schema. -/
theorem outputRows_failsOnly (form : Allows kind Error.isOfForm ∨ query.WellFormed)
    (typed : Allows kind Error.isOutOfRange ∨
      ∀ entry ∈ rows, Row.Typed schema.columns entry.2) :
    FailsOnly kind (query.outputRows now schema rows) := by
  unfold outputRows
  split
  · refine (groups_failsOnly general typed).bind fun formed forms => ?_
    refine (FailsOnly.mapM fun group member => ?_).bind fun _ _ => .pure _
    exact groupOutput_failsOnly general form
      (typed.imp_right fun typed => length_key_of_groups typed forms member)
  · exact FailsOnly.mapM fun entry member => rowOutput_failsOnly general form
      (typed.imp_right fun typed => (typed entry member).width)

/-- A query is answered with well-formed expressions and on rows that are typed without an
error that these guard against. -/
theorem answer_failsOnly {table : Table} (form : Allows kind Error.isOfForm ∨ query.WellFormed)
    (places : Allows kind Error.isOutOfRange ∨ table.WellTyped) :
    FailsOnly kind (query.answer now table) := by
  refine (table.matchingRows_failsOnly general now
    (form.imp_right WellFormed.condition)).bind fun rows found => ?_
  have typed : Allows kind Error.isOutOfRange ∨
      ∀ entry ∈ rows, Row.Typed table.schema.columns entry.2 :=
    places.imp_right fun wellTyped entry member =>
      wellTyped.typed entry (Table.mem_of_matchingRows wellTyped.toSound found member)
  exact (outputRows_failsOnly general form typed).bind fun _ _ => .pure _

end

end Select

end Relational
