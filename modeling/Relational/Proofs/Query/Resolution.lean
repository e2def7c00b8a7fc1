import Relational.Proofs.Expr.Resolution
import Relational.Proofs.Query.Failure
import Relational.Proofs.Query.Plan

/-!
# Names in a query that was bound

Binding looks columns up in the schema, among the labels of the result and among
the grouped columns, and an answer looks them up again, in rows and in groups.
The two agree on the select list, on the condition and on `GROUP BY`.  `HAVING`
and `ORDER BY` may name a column of the schema that a group does not have, and an
aggregate of `HAVING` a label that a row does not have.  A query without these
does not fail for a name, whatever rows it meets.
-/

namespace Relational

/-- A cell that is out of range is not a name out of place. -/
theorem Row.cell_resolves (row : Row) (position : Nat) : Resolves (Row.cell row position) := by
  unfold Row.cell
  split
  · exact .ok _
  · exact .error rfl

/-! ### Rows -/

namespace Scope

variable {now : DateTime} {schema : Schema} {row : Row} {name : String} {expression : Expr}

/-- A row has a cell for every column of its schema. -/
theorem ofRow_resolves (width : row.length = schema.columns.length)
    (known : (schema.position? name).isSome) :
    Resolves ((Scope.ofRow now schema row).column name) := by
  obtain ⟨position, located⟩ := Option.isSome_iff_exists.mp known
  have inside : position < row.length := (Schema.position?_lt located).trans_eq width.symm
  unfold Scope.ofRow
  simp only [located, Option.bind_some, List.getElem?_eq_getElem inside]
  exact .ok _

/-- In the scope of a row an expression without aggregates resolves if its columns are
known. -/
theorem resolvedIn_ofRow (width : row.length = schema.columns.length)
    (known : expression.unknownColumn? schema [] = none)
    (plain : expression.containsAggregate = false) :
    expression.ResolvedIn (Scope.ofRow now schema row) := by
  refine Expr.resolvedIn_of_plain plain fun name member => ofRow_resolves width ?_
  have located := Expr.unknownColumn?_eq_none_iff.mp known name member
  exact located.resolve_right List.not_mem_nil

end Scope

namespace Table

variable {now : DateTime} {table : Table}

/-- A condition on a table, its literals coerced or not. -/
theorem matchingRows_resolves (sound : table.Sound) {original condition : Option Expr}
    (known : ∀ expression ∈ original, expression.unknownColumn? table.schema [] = none)
    (plain : ∀ expression ∈ original, expression.containsAggregate = false)
    (coerces : Expr.coerceCondition table.schema original = .ok condition) :
    Resolves (table.matchingRows now condition) := by
  cases original with
  | none =>
      cases coerces
      exact .ok _
  | some expression =>
      obtain ⟨coerced, converts, result⟩ := bind_eq_ok.mp coerces
      cases result
      refine filterRows_failsOnly Error.isUnresolved_of_isOfValues fun entry member =>
        Expr.ResolvedIn.looksUp ?_
      have width := sound.width entry ((candidates_sublist sound _).subset member)
      exact (Scope.resolvedIn_ofRow width (known _ rfl) (plain _ rfl)).coerceLiterals converts

end Table

/-! ### Groups -/

namespace Group

variable {positions : List Nat} {cells : List Value} {entry other : RowId × Row}
  {groups formed : List Group} {group : Group}

/-- A group has only the row that was added and rows that it had before. -/
theorem mem_of_addRow (member : group ∈ addRow cells entry groups) (inside : other ∈ group.rows) :
    other = entry ∨ ∃ before ∈ groups, other ∈ before.rows := by
  induction groups with
  | nil =>
      rw [addRow, List.mem_singleton] at member
      subst member
      exact .inl (List.mem_singleton.mp inside)
  | cons first rest ih =>
      rw [addRow] at member
      split at member
      · rcases List.mem_cons.mp member with rfl | later
        · rcases List.mem_append.mp inside with before | here
          · exact .inr ⟨first, List.mem_cons_self, before⟩
          · exact .inl (List.mem_singleton.mp here)
        · exact .inr ⟨group, List.mem_cons_of_mem _ later, inside⟩
      · rcases List.mem_cons.mp member with rfl | later
        · exact .inr ⟨group, List.mem_cons_self, inside⟩
        · rcases ih later with same | ⟨before, among, inside⟩
          · exact .inl same
          · exact .inr ⟨before, List.mem_cons_of_mem _ among, inside⟩

/-- Groups have only the rows that were grouped and rows that they had before. -/
theorem mem_of_extend {rows : List (RowId × Row)}
    (extends' : extend positions groups rows = .ok formed)
    (member : group ∈ formed) (inside : other ∈ group.rows) :
    other ∈ rows ∨ ∃ before ∈ groups, other ∈ before.rows := by
  induction rows generalizing groups with
  | nil =>
      cases extends'
      exact .inr ⟨group, member, inside⟩
  | cons entry rest ih =>
      obtain ⟨cells, -, extends'⟩ := bind_eq_ok.mp extends'
      rcases ih extends' with later | ⟨before, among, inside⟩
      · exact .inl (List.mem_cons_of_mem _ later)
      · rcases mem_of_addRow among inside with rfl | known
        · exact .inl List.mem_cons_self
        · exact .inr known

/-- Grouping rows does not fail for a name. -/
theorem extend_resolves (positions : List Nat) (groups : List Group) (rows : List (RowId × Row)) :
    Resolves (extend positions groups rows) := by
  induction rows generalizing groups with
  | nil => exact .ok _
  | cons entry rest ih =>
      exact (Resolves.mapM fun position _ => Row.cell_resolves _ _).bind fun cells _ => ih _

end Group

/-! ### What binding makes sure of -/

namespace Select

variable {schema : Schema} {query bound : Select} {now : DateTime}

/-- Whether a query shows groups of rows instead of rows. -/
def formsGroups (query : Select) : Bool :=
  query.groupBy.isSome || !query.aggregates.isEmpty

/-- The expressions of the select list. -/
def shown (query : Select) : List Expr :=
  query.items.filterMap SelectItem.expression?

/-- The select list, the grouping and the order of a query, as far as binding
looks at their names. -/
structure Checked (schema : Schema) (query : Select) : Prop where
  shown : ∀ expression ∈ query.shown, expression.unknownColumn? schema [] = none
  groupBy : ∀ column ∈ query.groupBy.getD [], (schema.position? column).isSome
  orderBy : ∀ item ∈ query.orderBy.getD [],
    item.column ∈ query.labels ∨ (schema.position? item.column).isSome
  grouped : query.formsGroups = true →
    ∀ item ∈ query.items, checkGroupedItem (query.groupBy.getD []) item = .ok ()

/-! ### The aggregates of a query -/

/-- A list of calls with one more, unless it has one that is written alike. -/
def addCall (calls : List Expr) (call : Expr) : List Expr :=
  if calls.any fun other => other.same call then calls else calls ++ [call]

/-- The expressions in which a query may have aggregates. -/
def aggregating (query : Select) : List Expr :=
  query.shown ++ query.having.toList

/-- The aggregates of a query are the calls in the select list and in `HAVING`, each one
once. -/
theorem aggregates_eq (query : Select) : query.aggregates =
    (query.aggregating.flatMap fun expression =>
      expression.nodes.filter Expr.isAggregate).foldl addCall [] := by
  rw [List.foldl_flatMap]
  rfl

/-- Adding calls keeps those that are there. -/
theorem subset_foldl_addCall (known calls : List Expr) : known ⊆ calls.foldl addCall known := by
  induction calls generalizing known with
  | nil => exact List.Subset.refl _
  | cons call rest ih =>
      refine List.Subset.trans ?_ (ih _)
      unfold addCall
      split
      · exact List.Subset.refl _
      · exact List.subset_append_left _ _

/-- Adding calls adds no others. -/
theorem foldl_addCall_subset (known calls : List Expr) :
    calls.foldl addCall known ⊆ known ++ calls := by
  induction calls generalizing known with
  | nil => simp
  | cons call rest ih =>
      refine List.Subset.trans (ih _) ?_
      unfold addCall
      split <;> grind

/-- Every call is in the list or written like one that is. -/
theorem foldl_addCall_covers {calls : List Expr} {call : Expr} (member : call ∈ calls)
    (known : List Expr) : call ∈ calls.foldl addCall known ∨
      ∃ other ∈ calls.foldl addCall known, other.same call = true := by
  induction calls generalizing known with
  | nil => cases member
  | cons first rest ih =>
      rcases List.mem_cons.mp member with rfl | later
      · have kept := subset_foldl_addCall (addCall known call) rest
        rw [List.foldl_cons]
        by_cases alike : known.any fun other => other.same call
        · obtain ⟨other, among, same⟩ := List.any_eq_true.mp alike
          refine .inr ⟨other, kept ?_, same⟩
          rwa [addCall, if_pos alike]
        · refine .inl (kept ?_)
          rw [addCall, if_neg alike]
          exact List.mem_append_right _ List.mem_cons_self
      · exact ih later _

/-- An aggregate of a query is a call in the select list or in `HAVING`. -/
theorem exists_of_mem_aggregates {call : Expr} (member : call ∈ query.aggregates) :
    ∃ expression ∈ query.aggregating, call ∈ expression.nodes ∧ call.isAggregate = true := by
  rw [aggregates_eq] at member
  obtain ⟨expression, among, inside⟩ := List.mem_flatMap.mp (foldl_addCall_subset _ _ member)
  exact ⟨expression, among, List.mem_filter.mp inside⟩

/-- A call in the select list or in `HAVING` is an aggregate of the query, or is written
like one. -/
theorem aggregates_covers {expression call : Expr} (among : expression ∈ query.aggregating)
    (inside : call ∈ expression.nodes) (aggregate : call.isAggregate = true) :
    call ∈ query.aggregates ∨ ∃ other ∈ query.aggregates, other.same call = true := by
  rw [aggregates_eq]
  apply foldl_addCall_covers
  exact List.mem_flatMap.mpr ⟨expression, among, List.mem_filter.mpr ⟨inside, aggregate⟩⟩

/-- A query that shows rows has no aggregates to show. -/
theorem plain_of_shown (rows : query.formsGroups = false) {expression : Expr}
    (member : expression ∈ query.shown) : expression.containsAggregate = false := by
  obtain ⟨-, none⟩ := Bool.or_eq_false_iff.mp rows
  have none : query.aggregates = [] := by simpa using none
  refine List.any_eq_false.mpr fun call inside aggregate => ?_
  -- An aggregate would be in the list, or another one that is written like it.
  rcases aggregates_covers (List.mem_append_left _ member) inside aggregate with here | ⟨_, here, -⟩
  all_goals
    rw [none] at here
    cases here

/-- A query with aggregates is recognized as such. -/
theorem hasAggregate_of_aggregates (some : query.aggregates ≠ []) : query.hasAggregate = true := by
  obtain ⟨call, member⟩ := List.exists_mem_of_ne_nil _ some
  obtain ⟨expression, among, inside, aggregate⟩ := exists_of_mem_aggregates member
  have contains : expression.containsAggregate = true :=
    List.any_eq_true.mpr ⟨call, inside, aggregate⟩
  rw [hasAggregate, Bool.or_eq_true]
  rcases List.mem_append.mp among with shown | filtered
  · exact .inl (List.any_eq_true.mpr ⟨expression, shown, contains⟩)
  · refine .inr ?_
    rw [Option.mem_toList.mp filtered]
    exact contains

/-! ### Checks that succeeded -/

/-- The check of columns accepts exactly the expressions without unknown ones. -/
theorem checkColumns_eq_ok {labels : List String} {expression : Expr} :
    expression.checkColumns schema labels = .ok () ↔
      expression.unknownColumn? schema labels = none := by
  unfold Expr.checkColumns
  split <;> simp_all

/-- The check for aggregates accepts exactly the expressions without any. -/
theorem rejectAggregates_eq_ok {clause : String} {expression : Expr} :
    expression.rejectAggregates clause = .ok () ↔ expression.containsAggregate = false := by
  unfold Expr.rejectAggregates Expr.containsAggregate
  rw [List.any_eq_false]
  split
  · rename_i found same
    have inside := List.mem_of_find?_eq_some same
    have aggregate := List.find?_some same
    exact iff_of_false nofun fun free => free found inside aggregate
  · rename_i absent
    exact iff_of_true rfl (List.find?_eq_none.mp absent)

/-- An optional expression is accepted exactly if it is absent or accepted. -/
theorem checkOptional_eq_ok {check : Expr → Except Error Unit} {condition : Option Expr} :
    Expr.checkOptional check condition = .ok () ↔
      ∀ expression ∈ condition, check expression = .ok () := by
  cases condition <;> simp [Expr.checkOptional]

theorem isSome_of_position {column : String} {position : Nat}
    (located : schema.position column = .ok position) : (schema.position? column).isSome := by
  rw [Schema.position_eq_ok_iff.mp located]
  rfl

/-- Groups show what all of their rows share. -/
theorem checkedItems_of_checkGrouping (checked : query.checkGrouping = .ok ())
    (forms : query.formsGroups = true) :
    ∀ item ∈ query.items, checkGroupedItem (query.groupBy.getD []) item = .ok () := by
  obtain ⟨_, -, checked⟩ := bind_eq_ok.mp checked
  cases grouped : query.groupBy with
  | some columns =>
      rw [grouped] at checked
      exact forM_eq_ok.mp checked
  | none =>
      rw [formsGroups, grouped, Option.isSome_none, Bool.false_or, Bool.not_eq_true',
        List.isEmpty_eq_false_iff] at forms
      rw [grouped] at checked
      dsimp only at checked
      rw [if_pos (hasAggregate_of_aggregates forms)] at checked
      exact forM_eq_ok.mp checked

/-- A bound query has known columns and groups by what it shows. -/
theorem checked_of_bind (binds : query.bind schema = .ok bound) : query.Checked schema := by
  obtain ⟨_, columns, binds⟩ := bind_eq_ok.mp binds
  obtain ⟨_, grouping, -⟩ := bind_eq_ok.mp binds
  obtain ⟨_, shown, columns⟩ := bind_eq_ok.mp columns
  obtain ⟨_, -, columns⟩ := bind_eq_ok.mp columns
  obtain ⟨_, grouped, columns⟩ := bind_eq_ok.mp columns
  obtain ⟨_, -, ordered⟩ := bind_eq_ok.mp columns
  constructor
  · intro expression member
    exact checkColumns_eq_ok.mp (forM_eq_ok.mp shown expression member)
  · intro column member
    obtain ⟨_, located, -⟩ := bind_eq_ok.mp (forM_eq_ok.mp grouped column member)
    exact isSome_of_position located
  · intro item member
    have known := forM_eq_ok.mp ordered item member
    by_cases labelled : item.column ∈ query.labels
    · exact .inl labelled
    · rw [if_neg labelled] at known
      obtain ⟨_, located, -⟩ := bind_eq_ok.mp known
      exact .inr (isSome_of_position located)
  · exact checkedItems_of_checkGrouping grouping

/-- Binding changes the condition only, which mentions columns of the schema and
no aggregates. -/
theorem condition_of_bind (binds : query.bind schema = .ok bound) :
    (∀ expression ∈ query.condition, expression.unknownColumn? schema [] = none) ∧
      (∀ expression ∈ query.condition, expression.containsAggregate = false) ∧
      ∃ condition, Expr.coerceCondition schema query.condition = .ok condition ∧
        bound = { query with condition := condition } := by
  obtain ⟨_, columns, binds⟩ := bind_eq_ok.mp binds
  obtain ⟨_, grouping, binds⟩ := bind_eq_ok.mp binds
  obtain ⟨condition, coerces, result⟩ := bind_eq_ok.mp binds
  obtain ⟨_, -, columns⟩ := bind_eq_ok.mp columns
  obtain ⟨_, known, -⟩ := bind_eq_ok.mp columns
  obtain ⟨_, plain, -⟩ := bind_eq_ok.mp grouping
  refine ⟨fun expression member => ?_, fun expression member => ?_, condition, coerces, ?_⟩
  · exact checkColumns_eq_ok.mp (checkOptional_eq_ok.mp known expression member)
  · exact rejectAggregates_eq_ok.mp (checkOptional_eq_ok.mp plain expression member)
  · exact (pure_eq_ok.mp result).symm

/-! ### Names that binding accepts out of their place -/

/-- A query uses the names of `HAVING` and `ORDER BY` where they have values:
`HAVING` mentions grouped columns and columns of the result, its aggregates are
about columns of the rows, and groups are sorted by what they show or are grouped
by.  Aggregates contain no others and are written like themselves, which a literal
that is not a number is not. -/
structure Placed (schema : Schema) (query : Select) : Prop where
  having : ∀ condition ∈ query.having,
    condition.ungroupedColumn? (query.groupBy.getD [] ++ query.columnNames schema) = none
  aggregates : ∀ call ∈ query.aggregates, call.unknownColumn? schema [] = none
  flat : ∀ call ∈ query.aggregates, ∀ part ∈ call.parts, part.2.containsAggregate = false
  recognized : ∀ call ∈ query.aggregates, call.same call = true
  sorted : query.formsGroups = true → ∀ item ∈ query.orderBy.getD [],
    item.column ∈ query.groupBy.getD [] ++ query.columnNames schema

/-! ### Result rows -/

variable {row : Row} {rows : List (RowId × Row)} {scope : Scope} {cells : List Value}

/-- The labels are names of columns of the result. -/
theorem labels_subset_columnNames (schema : Schema) (query : Select) :
    query.labels ⊆ query.columnNames schema := by
  intro label member
  obtain ⟨item, among, given⟩ := List.mem_filterMap.mp member
  refine List.mem_flatMap.mpr ⟨item, among, ?_⟩
  cases item with
  | all => cases given
  | expression shown given' =>
      cases given
      exact List.mem_singleton_self _

/-- The select list does not fail for a name if its expressions do not. -/
theorem project_resolves {items : List SelectItem} (row : Option Row)
    (each : ∀ expression ∈ items.filterMap SelectItem.expression?,
      Resolves (expression.evaluate scope)) : Resolves (project scope row items) := by
  refine project_failsOnly ?_ row each
  rfl

/-- Sorting looks at the result first. -/
theorem sortValues_resolves {columns : List String}
    (known : ∀ item ∈ query.orderBy.getD [], item.column ∉ columns →
      Resolves (scope.column item.column)) :
    Resolves (query.sortValues scope columns cells) := by
  refine Resolves.mapM fun item member => ?_
  unfold sortValue
  split
  · exact Row.cell_resolves _ _
  · rename_i absent
    apply known item member
    intro among
    have found := List.findIdx?_eq_none_iff.mp absent item.column among
    simp at found

/-- The row of a checked query does not fail for a name if the row that it stems from is as
wide as the schema. -/
theorem rowOutput_resolves (checked : query.Checked schema) (shows : query.formsGroups = false)
    (width : row.length = schema.columns.length) : Resolves (rowOutput now schema query row) := by
  refine (project_resolves (some row) fun expression member => ?_).bind fun cells _ =>
    (sortValues_resolves fun item member absent => ?_).bind fun _ _ => .pure _
  · exact Expr.evaluate_resolves
      (Scope.resolvedIn_ofRow width (checked.shown _ member) (plain_of_shown shows member))
  · have labelled : item.column ∉ query.labels :=
      fun among => absent (labels_subset_columnNames schema query among)
    exact Scope.ofRow_resolves width ((checked.orderBy item member).resolve_left labelled)

/-- An aggregate does not fail for a name if its argument has known columns and no
aggregates. -/
theorem aggregateValue_resolves {call : Expr} (known : call.unknownColumn? schema [] = none)
    (flat : ∀ part ∈ call.parts, part.2.containsAggregate = false)
    (width : ∀ entry ∈ rows, entry.2.length = schema.columns.length) :
    Resolves (aggregateValue now schema rows call) := by
  cases call with
  | aggregate function argument distinct =>
      refine FailsOnly.bind (Accumulator.feedEach_failsOnly Error.isUnresolved_of_isOfValues
        (fun entry member => ?_) _) fun _ _ => .pure _
      cases argument with
      | none => exact .ok _
      | some argument =>
          have inside : (Expr.Descent.deeper, argument) ∈
              (Expr.aggregate function (some argument) distinct).parts := List.mem_singleton_self _
          refine Expr.evaluate_resolves
            (Scope.resolvedIn_ofRow (width entry member) ?_ (flat _ inside))
          rw [Expr.unknownColumn?_eq_none_iff] at known ⊢
          exact fun name mentioned =>
            known name (Expr.nodes_subset_of_mem_parts inside mentioned)
  | _ => exact .error rfl

/-- A group has a value for its grouped columns, for the columns of its result
and for the aggregates of its query. -/
theorem ofGroup_resolves {groupedBy : List String} {key values : List Value} {calls : List Expr}
    {labels : List (String × Value)} {table name : String}
    (known : name ∈ groupedBy ∨ name ∈ labels.map Prod.fst) :
    Resolves ((Scope.ofGroup now table groupedBy key calls values labels).column name) := by
  unfold Scope.ofGroup
  dsimp only
  split
  · exact Row.cell_resolves _ _
  · rename_i absent
    split
    · exact .ok _
    · rename_i absent'
      rcases known with grouped | labelled
      · have found := List.findIdx?_eq_none_iff.mp absent name grouped
        simp at found
      · obtain ⟨⟨_, value⟩, among, rfl⟩ := List.mem_map.mp labelled
        have found := List.lookup_eq_none_iff.mp absent' _ among
        simp at found

/-- In the scope of a group the aggregates of its query are found. -/
theorem ofGroup_aggregate_resolves {groupedBy : List String} {key values : List Value}
    {labels : List (String × Value)} {table : String} (placed : query.Placed schema)
    {expression call : Expr} (among : expression ∈ query.aggregating)
    (inside : call ∈ expression.nodes) (aggregate : call.isAggregate = true) :
    Resolves ((Scope.ofGroup now table groupedBy key query.aggregates values labels).aggregate
      call) := by
  obtain ⟨other, known, same⟩ : ∃ other ∈ query.aggregates, other.same call = true := by
    rcases aggregates_covers among inside aggregate with here | there
    · exact ⟨call, here, placed.recognized call here⟩
    · exact there
  unfold Scope.ofGroup
  dsimp only
  split
  · exact Row.cell_resolves _ _
  · rename_i absent
    have found := List.findIdx?_eq_none_iff.mp absent other known
    rw [same] at found
    cases found

/-- A result row has a cell for each column of the result. -/
theorem length_of_project {row : Option Row}
    (width : ∀ shown ∈ row, shown.length = schema.columns.length)
    (projected : project scope row query.items = .ok cells) :
    cells.length = (query.columnNames schema).length := by
  unfold columnNames
  generalize query.items = items at projected
  induction items generalizing cells with
  | nil =>
      cases projected
      rfl
  | cons item rest ih =>
      obtain ⟨first, head, projected⟩ := bind_eq_ok.mp projected
      obtain ⟨others, tail, result⟩ := bind_eq_ok.mp projected
      cases result
      rw [List.flatMap_cons, List.length_append, List.length_append, ih tail]
      cases item with
      | all =>
          cases row with
          | none => cases head
          | some shown =>
              cases head
              exact congrArg (· + _) ((width first rfl).trans Schema.columnNames_length.symm)
      | expression shown label =>
          obtain ⟨value, -, result⟩ := bind_eq_ok.mp head
          cases result
          cases label <;> rfl

/-- A select item that passed the check has no ungrouped column. -/
theorem ungroupedColumn?_of_checkGroupedItem {grouped : List String} {item : SelectItem}
    {expression : Expr} (checked : checkGroupedItem grouped item = .ok ())
    (shows : item.expression? = some expression) : expression.ungroupedColumn? grouped = none := by
  cases item with
  | all => cases shows
  | expression shown label =>
      cases shows
      unfold checkGroupedItem at checked
      dsimp only at checked
      split at checked
      · cases checked
      · assumption

/-- The group of a checked query does not fail for a name if its names are in their
places. -/
theorem groupOutput_resolves (checked : query.Checked schema) (placed : query.Placed schema)
    (forms : query.formsGroups = true) {group : Group}
    (width : ∀ entry ∈ group.rows, entry.2.length = schema.columns.length) :
    Resolves (groupOutput now schema query group) := by
  refine groupOutput_failsOnly_of (FailsOnly.mapM fun call member =>
      aggregateValue_resolves (placed.aggregates call member) (placed.flat call member) width)
    (fun values _ => project_resolves none fun expression member => ?_)
    fun values cells _ projected => ?_
  · obtain ⟨item, among, shows⟩ := List.mem_filterMap.mp member
    refine Expr.evaluate_resolves (Expr.resolvedIn_of_grouped
      (ungroupedColumn?_of_checkGroupedItem (checked.grouped forms item among) shows) ?_ ?_)
    · exact fun name grouped => ofGroup_resolves (.inl grouped)
    · exact fun call inside aggregate =>
        ofGroup_aggregate_resolves placed (List.mem_append_left _ member) inside aggregate
  -- The result has a cell for each of its columns, so that their names have values.
  have labelled : ((query.columnNames schema).zip cells).map Prod.fst =
      query.columnNames schema :=
    List.map_fst_zip (length_of_project (by simp) projected).ge
  have named : ∀ name ∈ query.groupBy.getD [] ++ query.columnNames schema,
      Resolves ((Scope.ofGroup now schema.name (query.groupBy.getD []) group.key query.aggregates
        values ((query.columnNames schema).zip cells)).column name) := by
    intro name among
    rw [← labelled] at among
    exact ofGroup_resolves (List.mem_append.mp among)
  refine ⟨fun condition filter => Expr.isMet_resolves ?_, ?_⟩
  · refine Expr.resolvedIn_of_grouped (placed.having _ filter) named ?_
    intro call inside aggregate
    have among : condition ∈ query.aggregating :=
      List.mem_append_right _ (Option.mem_toList.mpr filter)
    exact ofGroup_aggregate_resolves placed among inside aggregate
  · exact sortValues_resolves fun item member _ => named _ (placed.sorted forms item member)

/-- The groups of some rows are made of these rows. -/
theorem mem_of_groups {formed : List Group} (forms : query.groups schema rows = .ok formed)
    {group : Group} (member : group ∈ formed) {entry : RowId × Row} (inside : entry ∈ group.rows) :
    entry ∈ rows := by
  unfold groups at forms
  split at forms
  · obtain ⟨positions, -, forms⟩ := bind_eq_ok.mp forms
    rcases Group.mem_of_extend forms member inside with among | ⟨_, before, -⟩
    · exact among
    · cases before
  · cases forms
    rw [List.mem_singleton.mp member] at inside
    exact inside

/-- Forming groups does not fail for a name. -/
theorem groups_resolves (checked : query.Checked schema) (rows : List (RowId × Row)) :
    Resolves (query.groups schema rows) := by
  unfold groups
  split
  · rename_i columns grouped
    refine (Resolves.mapM fun column member => ?_).bind fun positions _ =>
      Group.extend_resolves positions [] rows
    have known := checked.groupBy column (by rwa [grouped])
    obtain ⟨position, located⟩ := Option.isSome_iff_exists.mp known
    rw [Schema.position_eq_ok_iff.mpr located]
    exact .ok _
  · exact .ok _

/-- The rows of a checked query do not fail for a name if its names are in their places. -/
theorem outputRows_resolves (checked : query.Checked schema) (placed : query.Placed schema)
    (width : ∀ entry ∈ rows, entry.2.length = schema.columns.length) :
    Resolves (query.outputRows now schema rows) := by
  unfold outputRows
  split
  · rename_i forms
    refine (groups_resolves checked rows).bind fun formed grouped => ?_
    refine (Resolves.mapM fun group member => ?_).bind fun _ _ => .pure _
    exact groupOutput_resolves checked placed forms fun entry inside =>
      width entry (mem_of_groups grouped member inside)
  · rename_i shows
    refine Resolves.mapM fun entry member => ?_
    exact rowOutput_resolves checked (Bool.eq_false_of_not_eq_true shows) (width entry member)

/-- A bound query whose names are in their places does not fail for them. -/
theorem answer_resolves {table : Table} (sound : table.Sound)
    (binds : query.bind table.schema = .ok bound) (placed : query.Placed table.schema) :
    Resolves (bound.answer now table) := by
  have checked := checked_of_bind binds
  obtain ⟨known, plain, condition, coerces, rfl⟩ := condition_of_bind binds
  refine (Table.matchingRows_resolves sound known plain coerces).bind fun rows found => ?_
  have width : ∀ entry ∈ rows, entry.2.length = table.schema.columns.length :=
    fun entry member => sound.width entry (Table.mem_of_matchingRows sound found member)
  -- Neither the checks nor the result look at the condition.
  have checked : Checked table.schema { query with condition := condition } :=
    ⟨checked.shown, checked.groupBy, checked.orderBy, checked.grouped⟩
  have placed : Placed table.schema { query with condition := condition } :=
    ⟨placed.having, placed.aggregates, placed.flat, placed.recognized, placed.sorted⟩
  exact (outputRows_resolves checked placed width).bind fun _ _ => .pure _

end Select

end Relational
