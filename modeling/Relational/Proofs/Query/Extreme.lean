import Relational.Proofs.Query.Accumulation
import Relational.Proofs.Query.Answer

/-!
# The first of the least values

`MIN` and `MAX` keep the first of those values that no other one precedes in their
order.  Sorting the values in that order puts the same one in front, behind the nulls
if these come first: values that are level with it keep their order, and there is
nothing else before it.
-/

namespace Relational

namespace Value

/-- A value that no other one precedes, the first of those that are level with it. -/
structure Leads (ascending : Bool) (values : List Value) (value : Value) : Prop where
  least : ∀ other ∈ values, directed ascending value other ≠ .gt
  first : (values.filter fun other => directed ascending other value = .eq).head? = some value

variable {ascending : Bool} {values : List Value} {value other : Value}

theorem isNull_iff_rank : value.isNull = true ↔ value.rank = 0 := by
  cases value <;> simp [isNull, rank]

/-- Null is level with nothing else. -/
theorem isNull_of_level (level : directed ascending other value = .eq) :
    other.isNull = value.isNull := by
  have level := directed_eq_iff.mp level
  have below := rank_le_of_sortCompare (a := other) (b := value) (by simp [level])
  have above := rank_le_of_sortCompare (a := value) (b := other)
    (by simp [sortCompare_swap other value, level])
  rw [Bool.eq_iff_iff, isNull_iff_rank, isNull_iff_rank]
  omega

namespace Leads

theorem mem (leads : Leads ascending values value) : value ∈ values :=
  List.mem_of_mem_filter (List.mem_of_head? leads.first)

/-- A single value leads. -/
theorem singleton (ascending : Bool) (value : Value) : Leads ascending [value] value := by
  have level := directed_self ascending value
  constructor
  · simp [level]
  · simp [level]

/-- The leading value stays in front unless the next one precedes it. -/
theorem keep (leads : Leads ascending values value) (behind : directed ascending other value ≠ .lt) :
    Leads ascending (values ++ [other]) value := by
  constructor
  · rw [List.forall_mem_append, List.forall_mem_singleton]
    refine ⟨leads.least, ?_⟩
    rw [directed_swap ascending other value]
    simpa using behind
  · rw [List.filter_append, List.head?_append, leads.first]
    rfl

/-- A value that precedes the leading one leads. -/
theorem replace (leads : Leads ascending values value) (sortable : Sortable (values ++ [other]))
    (before : directed ascending other value = .lt) :
    Leads ascending (values ++ [other]) other := by
  have beyond : ∀ third ∈ values, directed ascending other third = .lt := by
    intro third member
    have chain := sortable.directed_chained ascending (List.mem_append_right _ List.mem_cons_self)
      (List.mem_append_left _ leads.mem) (List.mem_append_left _ member)
    rw [chain (by simp [before]) (leads.least third member), before]
    rfl
  constructor
  · rw [List.forall_mem_append, List.forall_mem_singleton]
    constructor
    · intro third member
      simp [beyond third member]
    · simp [directed_self]
  · have none : (values.filter fun third => directed ascending third other = .eq) = [] := by
      apply List.filter_eq_nil_iff.mpr
      intro third member
      simp [directed_swap ascending other third, beyond third member]
    rw [List.filter_append, none]
    simp [directed_self]

/-- In front of the sorted values that are level with the leading one stands itself,
since they keep their order. -/
theorem find?_level_mergeSort (sortable : Sortable values)
    (leads : Leads ascending (values.filter fun other => !other.isNull) value) :
    (values.mergeSort fun a b => directed ascending a b != .gt).find?
      (fun other => directed ascending other value = .eq) = some value := by
  have present : (!value.isNull) = true := (List.mem_filter.mp leads.mem).2
  have inside := List.mem_of_mem_filter leads.mem
  have others : values.filter (fun other => directed ascending other value = .eq) =
      (values.filter fun other => !other.isNull).filter
        fun other => directed ascending other value = .eq := by
    rw [List.filter_filter]
    apply List.filter_congr
    intro other _
    by_cases level : directed ascending other value = .eq
    · simp [level, isNull_of_level level, present]
    · simp [level]
  rw [← List.head?_filter, filter_mergeSort_of_mem (sortable.transitive ascending)
    (total_of_swap (directed_swap ascending)), others, leads.first]
  intro a left b right level level'
  rw [decide_eq_true_eq] at level level'
  rw [bne_iff_ne]
  apply (sortable.directed_chained ascending left inside right).ne_gt
  · simp [level]
  · simp [directed_swap ascending b value, level']

/-- What no value but nulls comes before is level with the leading one. -/
theorem level_of_front {sorted before after : List Value} {front : Value}
    (leads : Leads ascending (values.filter fun other => !other.isNull) value)
    (ordered : sorted.Pairwise fun a b => (directed ascending a b != .gt) = true)
    (same : sorted.Perm values) (whole : sorted = before ++ front :: after)
    (full : (!front.isNull) = true) (nulls : ∀ other ∈ before, other.isNull = true) :
    directed ascending front value = .eq := by
  have inside := List.mem_of_mem_filter leads.mem
  have present : value.isNull = false := by simpa using (List.mem_filter.mp leads.mem).2
  have member : value ∈ before ++ front :: after := whole ▸ same.mem_iff.mpr inside
  have among : front ∈ values := same.mem_iff.mp (whole ▸ List.mem_append_cons_self)
  apply directed_eq_of_ne_gt
  · rw [List.mem_append, List.mem_cons] at member
    rcases member with early | rfl | late
    · exact absurd (nulls value early) (Bool.eq_false_iff.mp present)
    · simp [directed_self]
    · rw [whole] at ordered
      have tail := (List.pairwise_append.mp ordered).2.1
      exact bne_iff_ne.mp (List.rel_of_pairwise_cons tail late)
  · exact leads.least front (List.mem_filter.mpr ⟨among, full⟩)

/-- Sorting puts the leading one of the values other than null in front of these. -/
theorem find?_mergeSort (sortable : Sortable values)
    (leads : Leads ascending (values.filter fun other => !other.isNull) value) :
    (values.mergeSort fun a b => directed ascending a b != .gt).find? (fun other => !other.isNull) =
      some value := by
  have inside := List.mem_of_mem_filter leads.mem
  have present : (!value.isNull) = true := (List.mem_filter.mp leads.mem).2
  have kept := leads.find?_level_mergeSort sortable
  have ordered := sortable.pairwise_mergeSort ascending
  have same := List.mergeSort_perm values fun a b => directed ascending a b != .gt
  generalize (values.mergeSort fun a b => directed ascending a b != .gt) = sorted at *
  obtain ⟨front, found⟩ : ∃ front, sorted.find? (fun other => !other.isNull) = some front := by
    rw [← Option.isSome_iff_exists, List.find?_isSome]
    exact ⟨value, same.mem_iff.mpr inside, present⟩
  obtain ⟨full, before, after, whole, nulls⟩ := List.find?_eq_some_iff_append.mp found
  have nulls : ∀ other ∈ before, other.isNull = true :=
    fun other early => by simpa using nulls other early
  have level := leads.level_of_front ordered same whole full nulls
  -- The nulls are not level with it, so that it is the first value that is.
  have first : sorted.find? (fun other => directed ascending other value = .eq) = some front := by
    apply List.find?_eq_some_iff_append.mpr
    refine ⟨by simp [level], before, after, whole, ?_⟩
    intro other early
    have null := nulls other early
    by_contra level'
    have level' : directed ascending other value = .eq := by simpa using level'
    simp [← isNull_of_level level', null] at present
  rw [found, ← first, kept]

end Leads

end Value

namespace Accumulator

variable {ascending : Bool} {state : Accumulator} {values : List Value} {value : Value}

/-- The function that looks for the least value in an order. -/
def seeking (ascending : Bool) : AggregateFunction :=
  if ascending then .min else .max

/-- The extreme gives way to a value that precedes it. -/
theorem extreme_take (seeks : state.function = seeking ascending) (value : Value) :
    (state.take value).1.extreme = some (state.extreme.elim value fun current =>
      if Value.directed ascending value current = .lt then value else current) := by
  obtain ⟨function, seen, count, integers, floats, saw, extreme⟩ := state
  cases seeks
  cases extreme with
  | none => cases ascending <;> rfl
  | some current =>
      rw [Option.elim_some]
      simp only [Value.directed_lt_iff]
      cases ascending with
      | true =>
          change (keepExtreme _ .lt value).extreme = _
          unfold keepExtreme
          dsimp only
          split <;> simp_all
      | false =>
          change (keepExtreme _ .gt value).extreme = _
          unfold keepExtreme
          dsimp only
          split <;> simp_all

/-- The result of an extreme is null without values, and otherwise the extreme. -/
theorem result_eq (seeks : state.function = seeking ascending) : state.result =
    if state.count = 0 then .null else state.extreme.getD .null := by
  obtain ⟨function, seen, count, integers, floats, saw, extreme⟩ := state
  cases seeks
  cases ascending <;> rfl

theorem exists_key (present : value.isNull = false) : ∃ key, Key.ofValue? value = some key := by
  rw [← Option.isSome_iff_exists, Key.isSome_ofValue?, present]
  rfl

/-- After some values without a null, the extreme is the leading one of them. -/
theorem extreme_after (ascending : Bool) (sortable : Value.Sortable values)
    (present : ∀ value ∈ values, value.isNull = false) (some : values ≠ []) :
    ∃ value, ((start (seeking ascending) false).after values).extreme = .some value ∧
      Value.Leads ascending values value := by
  induction values using List.reverseRecOn with
  | nil => exact absurd rfl some
  | append_singleton values value ih =>
      have head : Value.isNull value = false := present value (by simp)
      obtain ⟨key, keyed⟩ := exists_key head
      have seeks : ((start (seeking ascending) false).after values).function = seeking ascending :=
        function_after _ _
      rw [after_concat, feed_plain (seen_after (start_plain _) values) keyed, extreme_take seeks]
      by_cases alone : values = []
      · subst alone
        exact ⟨value, rfl, .singleton ascending value⟩
      · obtain ⟨current, found, leads⟩ := ih (sortable.sublist (List.sublist_append_left _ _))
          (fun other member => present other (List.mem_append_left _ member)) alone
        rw [found, Option.elim_some]
        by_cases before : Value.directed ascending value current = .lt
        · rw [if_pos before]
          exact ⟨value, rfl, leads.replace sortable before⟩
        · rw [if_neg before]
          exact ⟨current, rfl, leads.keep before⟩

/-- The result is the first value other than null of the sorted values. -/
theorem result_seeking (ascending : Bool) (sortable : Value.Sortable values) :
    ((start (seeking ascending) false).after values).result =
      ((values.mergeSort fun a b => Value.directed ascending a b != .gt).find?
        fun value => !value.isNull).getD .null := by
  rw [← after_filter]
  by_cases none : (values.filter fun value => !value.isNull) = []
  · have absent : (values.mergeSort fun a b => Value.directed ascending a b != .gt).find?
        (fun value => !value.isNull) = .none := by
      rw [List.find?_eq_none]
      intro value member
      rw [List.mem_mergeSort] at member
      exact List.filter_eq_nil_iff.mp none value member
    rw [none, absent]
    cases ascending <;> rfl
  · obtain ⟨value, found, leads⟩ := extreme_after ascending (sortable.sublist List.filter_sublist)
      (fun value member => by simpa using (List.mem_filter.mp member).2) none
    have counted : ((start (seeking ascending) false).after
        (values.filter fun value => !value.isNull)).count ≠ 0 := by
      have present : value.isNull = false := by simpa using (List.mem_filter.mp leads.mem).2
      obtain ⟨key, keyed⟩ := exists_key present
      have member : key ∈ keysOf (values.filter fun value => !value.isNull) :=
        List.mem_filterMap.mpr ⟨value, leads.mem, keyed⟩
      rw [count_after]
      exact (List.length_pos_of_mem member).ne'
    rw [leads.find?_mergeSort sortable, result_eq (function_after _ _), if_neg counted, found]

end Accumulator

/-! ### Queries for one column -/

/-- A row of a table has its cells in the scope of it. -/
theorem Scope.ofRow_cellOf {now : DateTime} {schema : Schema} {row : Row} {column : String}
    (typed : Row.Typed schema.columns row) (located : (schema.position? column).isSome) :
    (Scope.ofRow now schema row).column column = .ok (row.cellOf schema column) := by
  obtain ⟨position, located⟩ := Option.isSome_iff_exists.mp located
  have cell := Table.cell_eq_ok_iff.mp (Row.cell_of_typed typed located)
  simp only [Scope.ofRow, located, Option.bind_some, cell]

/-- A column has a type, which all its cells fit. -/
theorem Row.exists_type {schema : Schema} {column : String}
    (located : (schema.position? column).isSome) :
    ∃ type, ∀ row, Row.Typed schema.columns row → (row.cellOf schema column).Fits type := by
  obtain ⟨position, located⟩ := Option.isSome_iff_exists.mp located
  have inside := Schema.position?_lt located
  refine ⟨schema.columns[position].type, fun row typed => ?_⟩
  have cell := Table.cell_eq_ok_iff.mp (Row.cell_of_typed typed located)
  exact typed.fits position _ _ (List.getElem?_eq_getElem inside) cell

namespace Select

open Accumulator

variable {now : DateTime} {table : Table} {schema : Schema} {name column : String}
  {condition : Option Expr} {ascending : Bool} {found : List (RowId × Row)} {bound : Select}

/-- The query for the cells of a column, in order. -/
def listed (table column : String) (condition : Option Expr) (ascending : Bool) : Select :=
  ⟨[.expression (.column column) none], table, condition, none, none, some [⟨column, ascending⟩],
    none, none⟩

/-- The query for the least or the greatest cell of a column. -/
def extreme (table column : String) (condition : Option Expr) (ascending : Bool) : Select :=
  ⟨[.expression (.aggregate (seeking ascending) (some (.column column)) false) none], table,
    condition, none, none, none, none, none⟩

/-- A listed row shows the cell of the column and is sorted by it. -/
theorem rowOutput_listed {row : Row} (typed : Row.Typed schema.columns row)
    (located : (schema.position? column).isSome) :
    rowOutput now schema (listed name column condition ascending) row =
      .ok ⟨[row.cellOf schema column], [row.cellOf schema column]⟩ := by
  have shows : project (Scope.ofRow now schema row) (some row)
      [.expression (.column column) none] = .ok [row.cellOf schema column] :=
    bind_eq_ok.mpr ⟨_, bind_eq_ok.mpr ⟨_, Scope.ofRow_cellOf typed located, rfl⟩, rfl⟩
  have sorts : (listed name column condition ascending).sortValues (Scope.ofRow now schema row)
      [column] [row.cellOf schema column] = .ok [row.cellOf schema column] := by
    rw [sortValues, mapM_eq_ok]
    apply List.Forall₂.cons _ .nil
    simp [sortValue, Row.cell]
  exact bind_eq_ok.mpr ⟨_, shows, bind_eq_ok.mpr ⟨_, sorts, rfl⟩⟩

/-- Sorting rows that show nothing but their keys sorts the keys. -/
theorem sort_shown (item : SortItem) (values : List Value) :
    OutputRow.sort [item] (values.map fun value => ⟨[value], [value]⟩) =
      (values.mergeSort fun a b => Value.directed item.ascending a b != .gt).map
        fun value => ⟨[value], [value]⟩ := by
  symm
  apply List.map_mergeSort
  intro a _ b _
  have none : OutputRow.compareBy [] [] [] = .eq := rfl
  rw [OutputRow.compareBy_cons, none, Ordering.then_eq]

/-- The listing shows the cells of the rows found, in order. -/
theorem answer_listed (typed : ∀ entry ∈ found, Row.Typed table.schema.columns entry.2)
    (located : (table.schema.position? column).isSome)
    (finds : table.matchingRows now condition = .ok found) :
    (listed name column condition ascending).answer now table =
      .ok (((found.map fun entry => entry.2.cellOf table.schema column).mergeSort
        fun a b => Value.directed ascending a b != .gt).map fun cell => [cell]) := by
  have projected : (listed name column condition ascending).outputRows now table.schema found =
      .ok ((found.map fun entry => entry.2.cellOf table.schema column).map
        fun cell => ⟨[cell], [cell]⟩) := by
    change found.mapM _ = _
    rw [List.map_map]
    exact mapM_eq_ok_map fun entry member => rowOutput_listed (typed entry member) located
  apply answer_eq_ok.mpr
  refine ⟨found, _, finds, projected, ?_⟩
  change _ = (OutputRow.sort _ _).map OutputRow.cells
  rw [sort_shown, List.map_map]
  rfl

/-- An extreme over rows is the result of a run over their cells. -/
theorem aggregateValue_extreme (typed : ∀ entry ∈ found, Row.Typed schema.columns entry.2)
    (located : (schema.position? column).isSome) :
    aggregateValue now schema found
      (.aggregate (seeking ascending) (some (.column column)) false) =
        .ok ((start (seeking ascending) false).after
          (found.map fun entry => entry.2.cellOf schema column)).result := by
  have inputs : found.mapM (aggregateInput now schema (some (.column column))) =
      .ok (found.map fun entry => entry.2.cellOf schema column) :=
    mapM_eq_ok_map fun entry member => Scope.ofRow_cellOf (typed entry member) located
  have silent : (start (seeking ascending) false).Silent := by
    cases ascending <;> exact ⟨by decide, by decide⟩
  exact bind_eq_ok.mpr ⟨_, feedEach_of_silent inputs (reports_silent silent _), rfl⟩

/-- The query shows the value of its aggregate, of all rows found. -/
theorem groupOutput_extreme {value : Value} (fed : aggregateValue now schema found
      (.aggregate (seeking ascending) (some (.column column)) false) = .ok value) :
    groupOutput now schema (extreme name column condition ascending) ⟨[], found⟩ =
      .ok (some ⟨[], [value]⟩) := by
  have alike : (Expr.aggregate (seeking ascending) (some (.column column)) false).same
      (.aggregate (seeking ascending) (some (.column column)) false) = true := by
    simp [Expr.same]
  apply groupOutput_eq_ok.mpr
  refine ⟨[value], [value], true, ?_, ?_, rfl, rfl⟩
  · rw [mapM_eq_ok]
    exact .cons fed .nil
  · apply bind_eq_ok.mpr
    refine ⟨_, bind_eq_ok.mpr ⟨_, ?_, rfl⟩, rfl⟩
    change (Scope.ofGroup now schema.name [] [] [_] [_] []).aggregate _ = _
    simp [Scope.ofGroup, alike, Row.cell]

/-- The query for an extreme is answered by one row with the result of a run over the
cells. -/
theorem answer_extreme (typed : ∀ entry ∈ found, Row.Typed table.schema.columns entry.2)
    (located : (table.schema.position? column).isSome)
    (finds : table.matchingRows now condition = .ok found) :
    (extreme name column condition ascending).answer now table =
      .ok [[((start (seeking ascending) false).after
        (found.map fun entry => entry.2.cellOf table.schema column)).result]] := by
  have shows : groupOutput now table.schema (extreme name column condition ascending) ⟨[], found⟩ =
      .ok (some ⟨[], [((start (seeking ascending) false).after
        (found.map fun entry => entry.2.cellOf table.schema column)).result]⟩) :=
    groupOutput_extreme (aggregateValue_extreme typed located)
  have projected : (extreme name column condition ascending).outputRows now table.schema found =
      .ok [⟨[], [((start (seeking ascending) false).after
        (found.map fun entry => entry.2.cellOf table.schema column)).result]⟩] := by
    refine bind_eq_ok.mpr ⟨[⟨[], found⟩], rfl, bind_eq_ok.mpr ⟨[some _], ?_, rfl⟩⟩
    rw [mapM_eq_ok]
    exact .cons shows .nil
  exact answer_of_outputs finds projected rfl rfl rfl

/-- If the cells of a column can be listed, the extreme of them can be found. -/
theorem bind_extreme (binds : (listed name column condition ascending).bind schema = .ok bound) :
    (schema.position? column).isSome ∧ ∃ coerced,
      Expr.coerceCondition schema condition = .ok coerced ∧
      bound = listed name column coerced ascending ∧
      (extreme name column condition ascending).bind schema =
        .ok (extreme name column coerced ascending) := by
  have located : (schema.position? column).isSome := by
    have known := (checked_of_bind binds).shown (.column column) List.mem_cons_self
    have known := Expr.unknownColumn?_eq_none_iff.mp known column (by simp [Expr.nodes])
    simpa using known
  obtain ⟨_, columns, binds⟩ := bind_eq_ok.mp binds
  obtain ⟨_, grouping, binds⟩ := bind_eq_ok.mp binds
  obtain ⟨coerced, coerces, result⟩ := bind_eq_ok.mp binds
  obtain ⟨_, -, columns⟩ := bind_eq_ok.mp columns
  obtain ⟨_, known, -⟩ := bind_eq_ok.mp columns
  obtain ⟨_, plain, -⟩ := bind_eq_ok.mp grouping
  cases result
  refine ⟨located, coerced, coerces, rfl, ?_⟩
  have argument : (Expr.aggregate (seeking ascending) (some (.column column)) false).checkColumns
      schema [] = .ok () := by
    rw [checkColumns_eq_ok, Expr.unknownColumn?_eq_none_iff]
    simp [Expr.nodes, located]
  have columns : (extreme name column condition ascending).checkColumns schema = .ok () :=
    bind_eq_ok.mpr ⟨(), bind_eq_ok.mpr ⟨(), argument, rfl⟩, bind_eq_ok.mpr ⟨(), known, rfl⟩⟩
  have grouping : (extreme name column condition ascending).checkGrouping = .ok () :=
    bind_eq_ok.mpr ⟨(), plain, rfl⟩
  exact bind_eq_ok.mpr ⟨(), columns, bind_eq_ok.mpr ⟨(), grouping,
    bind_eq_ok.mpr ⟨coerced, coerces, rfl⟩⟩⟩

end Select

end Relational
