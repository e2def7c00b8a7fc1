import Mathlib.Algebra.BigOperators.Group.List.Basic
import Mathlib.Algebra.Ring.Int.Defs
import Mathlib.Data.Nat.Cast.Basic
import Relational.Proofs.Query.Grouping
import Relational.Proofs.Query.Resolution

/-!
# Counting rows by groups

A query that counts the rows of groups has one aggregate, which its select list
and its `HAVING` share.  Its columns show the cells that a group was formed by:
a column that is grouped by twice is shown twice from its first place, where the
same cell stands.
-/

namespace Relational

namespace Expr

/-- The number of rows of a group. -/
def countRows : Expr :=
  .aggregate .count none false

/-- The condition that a group has more rows than a number. -/
def moreThan (least : Int64) : Expr :=
  .binary .greater countRows (.literal (.integer least))

end Expr

/-- A count passes if it is greater than the number, if there is one. -/
def passes (least : Option Int64) (count : Int64) : Bool :=
  least.all fun least => least.toInt < count.toInt

namespace Group

/-- The number of rows of a group, as the count of its rows has it. -/
def count (group : Group) : Int64 :=
  Int64.ofNat group.rows.length

/-- The cells that a group was formed by, and its count. -/
def counted (group : Group) : Row :=
  group.key ++ [.integer group.count]

end Group

/-- The number of rows in the class of a row, as a count of them has it. -/
def classCount (schema : Schema) (columns : List String) (entries : List (RowId × Row)) (row : Row) :
    Int64 :=
  Int64.ofNat (classOf schema columns entries row).length

/-- A row that shows the class of a row: its cells in the columns, and the count. -/
def classRow (schema : Schema) (columns : List String) (entries : List (RowId × Row)) (row : Row) :
    Row :=
  columns.map (row.cellOf schema) ++ [.integer (classCount schema columns entries row)]

/-- As long as there are fewer than `2 ^ 63` rows, counts are exact. -/
theorem toInt_ofNat_of_le {count total : Nat} (within : count ≤ total) (few : total < 2 ^ 63) :
    (Int64.ofNat count).toInt = count := by
  rw [Int64.toInt_ofNat', Int64.size]
  exact Int.bmod_eq_of_le (by omega) (by omega)

section Counts

variable {schema : Schema} {columns : List String} {entries : List (RowId × Row)}

/-- The count of a class is the number of its rows unless these are too many to be
counted. -/
theorem toInt_classCount (row : Row) (few : entries.length < 2 ^ 63) :
    (classCount schema columns entries row).toInt = (classOf schema columns entries row).length :=
  toInt_ofNat_of_le (List.length_filter_le _ _) few

/-- The counts of the classes add up to the number of rows. -/
theorem sum_classCount (few : entries.length < 2 ^ 63) :
    ((firsts schema columns entries).map fun first =>
      (classCount schema columns entries first.2).toInt).sum = entries.length := by
  have casts : ((firsts schema columns entries).map fun first =>
      (classCount schema columns entries first.2).toInt) =
        ((firsts schema columns entries).map fun first =>
          (classOf schema columns entries first.2).length).map (Nat.castAddMonoidHom Int) := by
    rw [List.map_map]
    exact List.map_congr_left fun first _ => toInt_classCount first.2 few
  rw [casts, ← map_list_sum, sum_length_classOf]
  rfl

end Counts

namespace Accumulator

/-- Counting rows counts every one of them. -/
theorem feedEach_count {α : Type} (state : Accumulator) (counts : state.function = .count)
    (plain : state.seen = none) (items : List α) :
    feedEach (fun _ => .ok (.boolean true)) state items =
      .ok { state with count := state.count + items.length } := by
  induction items generalizing state with
  | nil => rfl
  | cons item rest ih =>
      have fed : state.feed (.boolean true) = ({ state with count := state.count + 1 }, none) := by
        simp only [feed, Key.ofValue?, plain, take, counts]
      have next := ih { state with count := state.count + 1 } counts plain
      rw [Nat.add_assoc, Nat.add_comm 1] at next
      refine bind_eq_ok.mpr ⟨.boolean true, rfl, ?_⟩
      rw [fed]
      exact next

end Accumulator

namespace Select

variable {now : DateTime} {table : Table} {schema : Schema} {name : String} {condition : Expr}
  {groupBy : Option (List String)} {least : Option Int64} {bound : Select}
  {rows : List (RowId × Row)}

/-- The query that counts the rows of a table that meet a condition by groups,
and shows the groups with more rows than a number. -/
def counts (table : String) (condition : Expr) (groupBy : Option (List String))
    (least : Option Int64) : Select :=
  ⟨(groupBy.getD []).map (fun column => .expression (.column column) none) ++
    [.expression .countRows none], table, some condition, groupBy, least.map Expr.moreThan,
    none, none, none⟩

/-- The counting query shows the columns that it groups by and the count. -/
theorem shown_counts : (counts name condition groupBy least).shown =
    (groupBy.getD []).map Expr.column ++ [.countRows] := by
  rw [shown, counts, List.filterMap_append, List.filterMap_map]
  congr 1
  exact congrFun (List.filterMap_eq_map (f := Expr.column)) _

/-- The columns of the result are those that the rows are grouped by and the count. -/
theorem columnNames_counts : (counts name condition groupBy least).columnNames schema =
    groupBy.getD [] ++ ["COUNT(*)"] := by
  rw [columnNames, counts, List.flatMap_append, List.flatMap_map]
  congr 1
  exact List.flatMap_singleton' _

/-- The counting query has a single aggregate. -/
theorem aggregates_counts : (counts name condition groupBy least).aggregates = [.countRows] := by
  have columns : ((groupBy.getD []).map Expr.column).flatMap
      (fun expression => expression.nodes.filter Expr.isAggregate) = [] := by
    rw [List.flatMap_map]
    exact List.flatMap_eq_nil_iff.mpr fun _ _ => rfl
  rw [aggregates_eq, aggregating, shown_counts, List.flatMap_append, List.flatMap_append, columns]
  cases least <;> rfl

/-- A select list of columns and a count shows the columns of its scope and the
count. -/
theorem project_counts {scope : Scope} {row : Option Row} {columns : List String}
    {cells : List Value} {count : Value} (shows : columns.mapM scope.column = .ok cells)
    (counted : scope.aggregate .countRows = .ok count) :
    project scope row (columns.map (fun column => .expression (.column column) none) ++
      [.expression .countRows none]) = .ok (cells ++ [count]) := by
  rw [mapM_eq_ok] at shows
  induction shows with
  | nil =>
      have last : projectItem scope row (.expression .countRows none) = .ok [count] :=
        bind_eq_ok.mpr ⟨_, counted, rfl⟩
      exact bind_eq_ok.mpr ⟨_, last, rfl⟩
  | cons head _ ih =>
      have first : projectItem scope row (.expression (.column _) none) = .ok [_] :=
        bind_eq_ok.mpr ⟨_, head, rfl⟩
      exact bind_eq_ok.mpr ⟨_, first, bind_eq_ok.mpr ⟨_, ih, rfl⟩⟩

/-- A grouped column stands where it was named first. -/
theorem ofGroup_columns {columns : List String} {valueOf : String → Value} {calls : List Expr}
    {values : List Value} {labels : List (String × Value)} :
    columns.mapM (Scope.ofGroup now name columns (columns.map valueOf) calls values labels).column =
      .ok (columns.map valueOf) := by
  have each : ∀ column ∈ columns,
      (Scope.ofGroup now name columns (columns.map valueOf) calls values labels).column column =
        .ok (valueOf column) := by
    intro column member
    obtain ⟨position, found⟩ : ∃ position, columns.findIdx? (· = column) = some position := by
      rw [← Option.isSome_iff_exists, List.findIdx?_isSome, List.any_eq_true]
      exact ⟨column, member, decide_eq_true rfl⟩
    obtain ⟨inside, named, -⟩ := List.findIdx?_eq_some_iff_getElem.mp found
    have held : (columns.map valueOf)[position]? = some (valueOf column) := by
      rw [List.getElem?_map, List.getElem?_eq_getElem inside, of_decide_eq_true named]
      rfl
    simp only [Scope.ofGroup, found, Row.cell, held]
  rw [mapM_eq_ok, List.forall₂_map_right_iff]
  exact List.forall₂_same.mpr each

/-- The count of rows is how many they are. -/
theorem aggregateValue_countRows : aggregateValue now schema rows .countRows =
    .ok (.integer (Int64.ofNat rows.length)) := by
  refine bind_eq_ok.mpr ⟨_, Accumulator.feedEach_count _ rfl rfl rows, ?_⟩
  change Except.ok (Value.integer (Int64.ofNat (0 + rows.length))) = _
  rw [Nat.zero_add]

/-- The condition that there are more rows is met if the count passes. -/
theorem isMet_moreThan {scope : Scope} {least count : Int64}
    (counted : scope.aggregate .countRows = .ok (.integer count)) :
    (Expr.moreThan least).isMet scope = .ok (passes (some least) count) := by
  have compared : (Expr.moreThan least).evaluate scope =
      .ok (.boolean (compare count.toInt least.toInt == .gt)) :=
    bind_eq_ok.mpr ⟨_, counted, rfl⟩
  refine bind_eq_ok.mpr ⟨_, compared, ?_⟩
  change Except.ok (decide (some (compare count.toInt least.toInt == .gt) = some true)) = _
  congr 1
  rw [passes, Option.all_some, Bool.eq_iff_iff, decide_eq_true_eq, decide_eq_true_eq,
    Option.some.injEq, beq_iff_eq, Int.compare_eq_gt]

/-- A group is shown with its count, unless this is too small. -/
theorem groupOutput_counts {group : Group} {valueOf : String → Value}
    (keyed : group.key = (groupBy.getD []).map valueOf) :
    groupOutput now schema (counts name condition groupBy least) group =
      .ok (if passes least group.count then some ⟨[], group.counted⟩ else none) := by
  have values : [Expr.countRows].mapM (aggregateValue now schema group.rows) =
      .ok [.integer group.count] := by
    rw [mapM_eq_ok]
    exact .cons aggregateValue_countRows .nil
  unfold groupOutput
  rw [aggregates_counts]
  refine bind_eq_ok.mpr ⟨_, values, ?_⟩
  rw [Group.counted, keyed]
  refine bind_eq_ok.mpr ⟨_, project_counts ofGroup_columns rfl, ?_⟩
  cases least with
  | none => rfl
  | some least =>
      refine bind_eq_ok.mpr ⟨_, isMet_moreThan rfl, ?_⟩
      cases passes (some least) group.count <;> rfl

/-! ### Answers -/

/-- A query without an order and limits shows all of its rows as they come. -/
theorem answer_of_outputs {query : Select} {outputs : List OutputRow}
    (finds : table.matchingRows now query.condition = .ok rows)
    (projected : query.outputRows now table.schema rows = .ok outputs)
    (unsorted : query.orderBy = none) (unlimited : query.limit = none)
    (whole : query.offset = none) :
    query.answer now table = .ok (outputs.map OutputRow.cells) := by
  refine bind_eq_ok.mpr ⟨rows, finds, bind_eq_ok.mpr ⟨outputs, projected, ?_⟩⟩
  simp only [unsorted, page, unlimited, whole]
  rfl

/-- The items that are shown are those that pass a filter. -/
theorem reduceOption_map_ite {α β : Type} (shows : α → Bool) (show' : α → β) (items : List α) :
    (items.map fun item => if shows item then some (show' item) else none).reduceOption =
      (items.filter shows).map show' := by
  induction items with
  | nil => rfl
  | cons item rest ih =>
      rw [List.map_cons, List.filter_cons]
      cases shows item with
      | true => exact congrArg (_ :: ·) ih
      | false => exact ih

/-- The answer consists of the groups with great enough counts, in their order. -/
theorem answer_counts {formed : List Group}
    (finds : table.matchingRows now (some condition) = .ok rows)
    (groups : (counts name condition groupBy least).groups table.schema rows = .ok formed)
    (keyed : ∀ group ∈ formed, ∃ valueOf, group.key = (groupBy.getD []).map valueOf) :
    (counts name condition groupBy least).answer now table =
      .ok ((formed.filter fun group => passes least group.count).map Group.counted) := by
  have each : formed.mapM (groupOutput now table.schema (counts name condition groupBy least)) =
      .ok (formed.map fun group =>
        if passes least group.count then some ⟨[], group.counted⟩ else none) := by
    rw [mapM_eq_ok, List.forall₂_map_right_iff]
    refine List.forall₂_same.mpr fun group member => ?_
    obtain ⟨valueOf, key⟩ := keyed group member
    exact groupOutput_counts key
  have projected : (counts name condition groupBy least).outputRows now table.schema rows =
      .ok ((formed.filter fun group => passes least group.count).map fun group =>
        ⟨[], group.counted⟩) := by
    rw [outputRows, if_pos (by rw [aggregates_counts]; exact Bool.or_true _)]
    refine bind_eq_ok.mpr ⟨formed, groups, bind_eq_ok.mpr ⟨_, each, ?_⟩⟩
    rw [reduceOption_map_ite]
    rfl
  rw [answer_of_outputs finds projected rfl rfl rfl, List.map_map]
  rfl

/-- Counting without groups counts all rows. -/
theorem answer_counts_all (finds : table.matchingRows now (some condition) = .ok rows) :
    (counts name condition none none).answer now table =
      .ok [[.integer (Int64.ofNat rows.length)]] := by
  have groups : (counts name condition none none).groups table.schema rows =
      .ok [⟨[], rows⟩] := rfl
  have keyed : ∀ group ∈ [Group.mk [] rows], ∃ valueOf,
      group.key = (none.getD [] : List String).map valueOf :=
    List.forall_mem_singleton.mpr ⟨fun _ => .null, rfl⟩
  exact answer_counts finds groups keyed

/-- Counting by columns counts the rows of each class. -/
theorem answer_counts_by {columns : List String} {positions : List Nat}
    (located : columns.mapM table.schema.position = .ok positions)
    (finds : table.matchingRows now (some condition) = .ok rows)
    (typed : ∀ entry ∈ rows, Row.Typed table.schema.columns entry.2) :
    (counts name condition (some columns) least).answer now table =
      .ok (((firsts table.schema columns rows).filter fun first =>
        passes least (classCount table.schema columns rows first.2)).map fun first =>
          classRow table.schema columns rows first.2) := by
  have groups : (counts name condition (some columns) least).groups table.schema rows =
      .ok ((firsts table.schema columns rows).map fun first =>
        ⟨columns.map (first.2.cellOf table.schema), classOf table.schema columns rows first.2⟩) :=
    bind_eq_ok.mpr ⟨positions, located, Group.partition_eq located typed⟩
  rw [answer_counts finds groups, List.filter_map, List.map_map]
  · rfl
  · rw [List.forall_mem_map]
    exact fun first _ => ⟨_, rfl⟩

/-! ### Binding -/

/-- A column is known if the schema or the labels have it. -/
theorem checkColumns_column {labels : List String} {column : String} :
    (Expr.column column).checkColumns schema labels = .ok () ↔
      (schema.position? column).isSome ∨ column ∈ labels := by
  rw [checkColumns_eq_ok, Expr.unknownColumn?_eq_none_iff]
  simp [Expr.nodes]

/-- Groups show the columns that they are formed by. -/
theorem checkGroupedItem_column {columns : List String} {column : String} {label : Option String}
    (member : column ∈ columns) :
    checkGroupedItem columns (.expression (.column column) label) = .ok () := by
  simp only [checkGroupedItem, Expr.ungroupedColumn?, if_pos member]

/-- The columns of the counting query are known if those of its condition and grouping
are. -/
theorem checkColumns_counts (known : condition.checkColumns schema [] = .ok ())
    (located : ∀ column ∈ groupBy.getD [], (schema.position? column).isSome) :
    (counts name condition groupBy least).checkColumns schema = .ok () := by
  have shown : (counts name condition groupBy least).shown.forM (Expr.checkColumns schema []) =
      .ok () := by
    rw [forM_eq_ok, shown_counts, List.forall_mem_append]
    refine ⟨?_, List.forall_mem_singleton.mpr rfl⟩
    rw [List.forall_mem_map]
    exact fun column member => checkColumns_column.mpr (.inl (located column member))
  have grouped : (groupBy.getD []).forM (fun column => do
      let _ ← schema.position column) = .ok () := by
    refine forM_eq_ok.mpr fun column member => ?_
    obtain ⟨position, found⟩ := Option.isSome_iff_exists.mp (located column member)
    rw [Schema.position_eq_ok_iff.mpr found]
    rfl
  have filtered : Expr.checkOptional (Expr.checkColumns schema
      (counts name condition groupBy least).labels) (least.map Expr.moreThan) = .ok () := by
    cases least <;> rfl
  exact bind_eq_ok.mpr ⟨(), shown, bind_eq_ok.mpr ⟨(), known, bind_eq_ok.mpr ⟨(), grouped,
    bind_eq_ok.mpr ⟨(), filtered, rfl⟩⟩⟩⟩

/-- The aggregate of the counting query stands where aggregates may stand. -/
theorem checkGrouping_counts (plain : condition.rejectAggregates "WHERE" = .ok ()) :
    (counts name condition groupBy least).checkGrouping = .ok () := by
  refine bind_eq_ok.mpr ⟨(), plain, ?_⟩
  cases groupBy with
  | none => rfl
  | some columns =>
      refine forM_eq_ok.mpr ?_
      rw [counts, List.forall_mem_append, List.forall_mem_map]
      exact ⟨fun column member => checkGroupedItem_column member,
        List.forall_mem_singleton.mpr rfl⟩

/-- Such a query binds if its condition does and its columns exist. -/
theorem bind_counts_eq_ok : (counts name condition groupBy least).bind schema = .ok bound ↔
    condition.checkColumns schema [] = .ok () ∧ condition.rejectAggregates "WHERE" = .ok () ∧
      (∀ column ∈ groupBy.getD [], (schema.position? column).isSome) ∧
      ∃ coerced, Expr.coerceLiterals schema condition = .ok coerced ∧
        bound = counts name coerced groupBy least := by
  constructor
  · intro binds
    have checked := checked_of_bind binds
    obtain ⟨_, columns, binds⟩ := bind_eq_ok.mp binds
    obtain ⟨_, grouping, binds⟩ := bind_eq_ok.mp binds
    obtain ⟨_, binds, result⟩ := bind_eq_ok.mp binds
    obtain ⟨coerced, coerces, wrapped⟩ := bind_eq_ok.mp binds
    obtain ⟨_, -, columns⟩ := bind_eq_ok.mp columns
    obtain ⟨_, known, -⟩ := bind_eq_ok.mp columns
    obtain ⟨_, plain, -⟩ := bind_eq_ok.mp grouping
    cases wrapped
    cases result
    exact ⟨known, plain, checked.groupBy, coerced, coerces, rfl⟩
  · rintro ⟨known, plain, located, coerced, coerces, rfl⟩
    have converted : Expr.coerceCondition schema (some condition) = .ok (some coerced) :=
      bind_eq_ok.mpr ⟨coerced, coerces, rfl⟩
    exact bind_eq_ok.mpr ⟨(), checkColumns_counts known located, bind_eq_ok.mpr ⟨(),
      checkGrouping_counts plain, bind_eq_ok.mpr ⟨_, converted, rfl⟩⟩⟩

end Select

end Relational
