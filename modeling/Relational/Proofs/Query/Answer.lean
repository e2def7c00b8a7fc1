import Mathlib.Data.List.ReduceOption
import Relational.Proofs.Query.Counting
import Relational.Proofs.Query.Sorting
import Relational.Proofs.Table.Operation

/-!
# Answers in order and in pages

A criterion names a column of the result or else one of the rows behind it: of the
row that is shown, or of those that groups are formed by.  Without criteria an
answer has the same rows in the order of their origins.  The pages of an answer are
its parts of one length, one after the other, of which only the last may be shorter.
-/

namespace Relational

/-! ### Pages -/

/-- A list is made of its pages, and there is nothing beyond the last one. -/
theorem exists_pages {α : Type} {size : Nat} (positive : 0 < size) (rows : List α) :
    ∃ pages : List (List α), pages.flatten = rows ∧ (∀ page ∈ pages, page ≠ []) ∧
      ∀ number, pages.getD number [] = (rows.drop (number * size)).take size := by
  by_cases done : rows = []
  · subst done
    exact ⟨[], by simp⟩
  · obtain ⟨pages, whole, filled, each⟩ := exists_pages positive (rows.drop size)
    refine ⟨rows.take size :: pages, ?_, ?_, ?_⟩
    · rw [List.flatten_cons, whole, List.take_append_drop]
    · have first : rows.take size ≠ [] := by
        simp [done, positive.ne']
      exact List.forall_mem_cons.mpr ⟨first, filled⟩
    · intro number
      cases number with
      | zero => simp
      | succ number =>
          rw [List.getD_cons_succ, each, List.drop_drop, Nat.add_mul, Nat.one_mul, Nat.add_comm]
termination_by rows.length
decreasing_by
  rw [List.length_drop]
  exact Nat.sub_lt (List.length_pos_of_ne_nil done) positive

/-! ### Keys -/

/-- What a criterion sorts a row of a result by: the cell in the first column of its
name, or else the cell of the row's origin in a column that the origin has. -/
structure SortItem.Reads (schema : Schema) (query : Select) (known : List String) (origin : Row)
    (cells : List Value) (item : SortItem) (key : Value) : Prop where
  shown : item.column ∈ query.columnNames schema →
    cells[(query.columnNames schema).idxOf item.column]? = some key
  hidden : item.column ∉ query.columnNames schema →
    item.column ∈ known ∧ key = origin.cellOf schema item.column

/-- A row of a result without the values that it is sorted by. -/
def OutputRow.bare (output : OutputRow) : OutputRow :=
  ⟨[], output.cells⟩

namespace Select

variable {now : DateTime} {table : Table} {schema : Schema} {query bound : Select} {row : Row}
  {found : List (RowId × Row)} {outputs : List OutputRow} {output : OutputRow}

/-- The columns of its origin that a row of a result may be sorted by. -/
def sourceColumns (schema : Schema) (query : Select) : List String :=
  if query.formsGroups then query.groupBy.getD [] else schema.columnNames

/-- The rows that the rows of a result stem from: the rows found, or those of them
that begin a class.  What all rows have in common stems from a row without cells. -/
def origins (schema : Schema) (query : Select) (found : List (RowId × Row)) : List Row :=
  if query.formsGroups then
    match query.groupBy with
    | some columns => (firsts schema columns found).map Prod.snd
    | none => [[]]
  else found.map Prod.snd

/-- The group that begins with a row. -/
def groupOf (schema : Schema) (query : Select) (found : List (RowId × Row)) (origin : Row) :
    Group where
  key := (query.groupBy.getD []).map (origin.cellOf schema)
  rows := classOf schema (query.groupBy.getD []) found origin

/-- The row of a result that stems from a row, unless `HAVING` excludes it. -/
def outputOf (now : DateTime) (schema : Schema) (query : Select) (found : List (RowId × Row))
    (origin : Row) : Except Error (Option OutputRow) :=
  if query.formsGroups then groupOutput now schema query (query.groupOf schema found origin)
  else (rowOutput now schema query origin).map some

/-- What a criterion is evaluated to is what it reads, given where it finds a hidden
column. -/
theorem reads_of_sortValue {scope : Scope} {known : List String} {origin : Row}
    {cells : List Value} {item : SortItem} {key : Value}
    (source : item.column ∉ query.columnNames schema → scope.column item.column = .ok key →
      item.column ∈ known ∧ key = origin.cellOf schema item.column)
    (reads : sortValue scope (query.columnNames schema) cells item = .ok key) :
    item.Reads schema query known origin cells key := by
  unfold sortValue at reads
  split at reads
  · rename_i position located
    obtain ⟨inside, first⟩ := List.findIdx?_eq_some_iff_findIdx_eq.mp located
    have first : (query.columnNames schema).idxOf item.column = position := first
    have named : item.column ∈ query.columnNames schema := by
      rw [← List.idxOf_lt_length_iff, first]
      exact inside
    rw [← first] at reads
    exact ⟨fun _ => Table.cell_eq_ok_iff.mp reads, fun missing => absurd named missing⟩
  · rename_i absent
    have missing : item.column ∉ query.columnNames schema := by
      intro named
      have other := List.findIdx?_eq_none_iff.mp absent item.column named
      simp at other
    exact ⟨fun named => absurd named missing, fun _ => source missing reads⟩

/-! ### Rows of a result and their origins -/

/-- A row is sorted by what the criteria read in the row that it stems from. -/
theorem reads_of_rowOutput (shows : rowOutput now schema query row = .ok output) :
    List.Forall₂ (SortItem.Reads schema query schema.columnNames row output.cells)
      (query.orderBy.getD []) output.sortedBy := by
  obtain ⟨cells, -, shows⟩ := bind_eq_ok.mp shows
  obtain ⟨keys, sorts, result⟩ := bind_eq_ok.mp shows
  cases result
  apply (mapM_eq_ok.mp sorts).imp
  intro item key reads
  apply reads_of_sortValue _ reads
  intro _ looked
  unfold Scope.ofRow at looked
  dsimp only at looked
  split at looked
  · rename_i value held
    cases looked
    rw [Row.cellOf, held, Option.getD_some]
    obtain ⟨position, located, -⟩ := Option.bind_eq_some_iff.mp held
    refine ⟨?_, rfl⟩
    by_contra missing
    rw [Schema.position?_eq_none_iff.mpr missing] at located
    cases located
  · cases looked

/-- The scope in which `HAVING` and the criteria of a query see a group. -/
def groupScope (now : DateTime) (schema : Schema) (query : Select) (group : Group)
    (values cells : List Value) : Scope :=
  Scope.ofGroup now schema.name (query.groupBy.getD []) group.key query.aggregates values
    ((query.columnNames schema).zip cells)

/-- The row of a group is shown if its aggregates, its cells, `HAVING` and its criteria have
values, and it is left out if `HAVING` is not met. -/
theorem groupOutput_eq_ok {group : Group} {result : Option OutputRow} :
    groupOutput now schema query group = .ok result ↔ ∃ values cells passes,
      query.aggregates.mapM (aggregateValue now schema group.rows) = .ok values ∧
      project (Scope.ofGroup now schema.name (query.groupBy.getD []) group.key query.aggregates
        values []) none query.items = .ok cells ∧
      query.having.elim (.ok true) (Expr.isMet (groupScope now schema query group values cells)) =
        .ok passes ∧
      (if passes then
        (query.sortValues (groupScope now schema query group values cells)
          (query.columnNames schema) cells).map fun keys => some ⟨keys, cells⟩
      else .ok none) = .ok result := by
  have rest : ∀ (scope : Scope) (cells : List Value) (passes : Bool),
      (if passes = true then do
        let keys ← query.sortValues scope (query.columnNames schema) cells
        pure (some (OutputRow.mk keys cells))
      else pure none : Except Error (Option OutputRow)) =
        if passes then (query.sortValues scope (query.columnNames schema) cells).map
          fun keys => some ⟨keys, cells⟩
        else .ok none := fun _ _ _ => rfl
  unfold groupOutput
  simp only [bind_eq_ok, rest]
  cases filters : query.having <;> simp [bind_eq_ok, groupScope]

/-- A group has the cells of its columns, and its labels are those of the result. -/
theorem reads_of_groupOutput {group : Group} {origin : Row}
    (keyed : group.key = (query.groupBy.getD []).map (origin.cellOf schema))
    (shows : groupOutput now schema query group = .ok (some output)) :
    List.Forall₂ (SortItem.Reads schema query (query.groupBy.getD []) origin output.cells)
      (query.orderBy.getD []) output.sortedBy := by
  obtain ⟨values, cells, passes, -, -, -, shows⟩ := groupOutput_eq_ok.mp shows
  split at shows
  · obtain ⟨keys, sorts, result⟩ := map_eq_ok.mp shows
    cases result
    apply (mapM_eq_ok.mp sorts).imp
    intro item key reads
    apply reads_of_sortValue _ reads
    intro missing looked
    unfold groupScope Scope.ofGroup at looked
    dsimp only at looked
    split at looked
    · rename_i position located
      obtain ⟨inside, named, -⟩ := List.findIdx?_eq_some_iff_getElem.mp located
      have named : (query.groupBy.getD [])[position] = item.column := of_decide_eq_true named
      rw [Table.cell_eq_ok_iff, keyed, List.getElem?_map, List.getElem?_eq_getElem inside,
        named] at looked
      exact ⟨named ▸ List.getElem_mem inside, (Option.some.inj looked).symm⟩
    · split at looked
      · rename_i value labelled
        obtain ⟨before, after, whole, -⟩ := List.lookup_eq_some_iff.mp labelled
        have among : (item.column, value) ∈ (query.columnNames schema).zip cells := by
          simp [whole]
        exact absurd (List.of_mem_zip among).1 missing
      · cases looked
  · cases shows

/-- The groups of a query are those of its origins. -/
theorem groups_eq {formed : List Group}
    (typed : ∀ entry ∈ found, Row.Typed schema.columns entry.2) (forms : query.formsGroups = true)
    (grouped : query.groups schema found = .ok formed) :
    formed = (query.origins schema found).map (query.groupOf schema found) := by
  unfold groups at grouped
  unfold origins groupOf
  rw [if_pos forms]
  cases listed : query.groupBy with
  | some columns =>
      rw [listed] at grouped
      obtain ⟨positions, located, parts⟩ := bind_eq_ok.mp grouped
      rw [Group.partition_eq located typed] at parts
      cases parts
      rw [List.map_map]
      rfl
  | none =>
      rw [listed] at grouped
      cases grouped
      have everything : classOf schema [] found [] = found := by
        simp [classOf, Row.GroupsWith]
      simp [everything]

/-- The rows of a result are those that stem from its origins. -/
theorem exists_outputs (typed : ∀ entry ∈ found, Row.Typed schema.columns entry.2)
    (projected : query.outputRows now schema found = .ok outputs) :
    ∃ results, (query.origins schema found).mapM (query.outputOf now schema found) = .ok results ∧
      outputs = results.reduceOption := by
  unfold outputRows at projected
  rw [← formsGroups] at projected
  by_cases forms : query.formsGroups
  · rw [if_pos forms] at projected
    obtain ⟨formed, grouped, projected⟩ := bind_eq_ok.mp projected
    obtain ⟨results, shows, result⟩ := bind_eq_ok.mp projected
    cases result
    refine ⟨results, ?_, rfl⟩
    rw [groups_eq typed forms grouped, mapM_eq_ok, List.forall₂_map_left_iff] at shows
    rw [mapM_eq_ok]
    apply shows.imp
    intro origin output shows
    rwa [outputOf, if_pos forms]
  · rw [if_neg forms, mapM_eq_ok] at projected
    refine ⟨outputs.map some, ?_, ?_⟩
    · rw [origins, if_neg forms, mapM_eq_ok, List.forall₂_map_left_iff,
        List.forall₂_map_right_iff]
      apply projected.imp
      intro entry output shows
      rw [outputOf, if_neg forms, shows]
      rfl
    · simp [List.reduceOption]

/-- A row that stems from another one has a key for each criterion. -/
def Keyed (schema : Schema) (query : Select) (items : List SortItem) (origin : Row)
    (output : OutputRow) : Prop :=
  List.Forall₂ (SortItem.Reads schema query (query.sourceColumns schema) origin output.cells) items
    output.sortedBy

/-- The row that stems from another one has a key for each criterion. -/
theorem keyed_of_outputOf {origin : Row}
    (shows : query.outputOf now schema found origin = .ok (some output)) :
    query.Keyed schema (query.orderBy.getD []) origin output := by
  unfold outputOf at shows
  unfold Keyed sourceColumns
  split at shows
  · rename_i forms
    rw [if_pos forms]
    exact reads_of_groupOutput rfl shows
  · rename_i forms
    obtain ⟨shown, shows, result⟩ := map_eq_ok.mp shows
    cases result
    rw [if_neg forms]
    exact reads_of_rowOutput shows

/-- Rows that have keys are sorted by them if these can be sorted. -/
theorem sort_keyed {items : List SortItem} {origins : List Row}
    {results : List (Option OutputRow)}
    (keyed : List.Forall₂ (fun origin result => ∀ output ∈ result,
      query.Keyed schema items origin output) origins results)
    (sortable : ∀ position : Nat, Value.Sortable
      (results.reduceOption.filterMap fun output => output.sortedBy[position]?)) :
    OutputRow.Sorted items results.reduceOption (OutputRow.sort items results.reduceOption) := by
  apply OutputRow.sort_sorted
  constructor
  · rw [List.forall_mem_map]
    intro output member
    obtain ⟨origin, -, keys⟩ := exists_of_forall₂ keyed.flip (List.reduceOption_mem_iff.mp member)
    exact (keys output rfl).length_eq.symm
  · intro position
    rw [List.filterMap_map]
    exact sortable position

/-! ### Rows of a result without order -/

/-- Without criteria, a row has the same cells. -/
theorem rowOutput_unordered (shows : rowOutput now schema query row = .ok output) :
    rowOutput now schema { query with orderBy := none } row = .ok output.bare := by
  obtain ⟨cells, projects, shows⟩ := bind_eq_ok.mp shows
  obtain ⟨keys, -, result⟩ := bind_eq_ok.mp shows
  cases result
  exact bind_eq_ok.mpr ⟨cells, projects, rfl⟩

/-- Without criteria, the row of a group has the same cells. -/
theorem groupOutput_unordered {group : Group} {result : Option OutputRow}
    (shows : groupOutput now schema query group = .ok result) :
    groupOutput now schema { query with orderBy := none } group =
      .ok (result.map OutputRow.bare) := by
  obtain ⟨values, cells, passes, fed, projects, filters, shows⟩ := groupOutput_eq_ok.mp shows
  apply groupOutput_eq_ok.mpr
  refine ⟨values, cells, passes, fed, projects, filters, ?_⟩
  cases passes with
  | true =>
      obtain ⟨keys, -, same⟩ := map_eq_ok.mp shows
      cases same
      rfl
  | false =>
      cases shows
      rfl

/-- Without criteria, the rows of a result have the same cells. -/
theorem outputRows_unordered (projected : query.outputRows now schema found = .ok outputs) :
    ({ query with orderBy := none } : Select).outputRows now schema found =
      .ok (outputs.map OutputRow.bare) := by
  unfold outputRows at projected ⊢
  rw [← formsGroups] at projected ⊢
  by_cases forms : query.formsGroups
  · have forms' : ({ query with orderBy := none } : Select).formsGroups = true := forms
    rw [if_pos forms] at projected
    obtain ⟨formed, grouped, projected⟩ := bind_eq_ok.mp projected
    obtain ⟨results, shows, result⟩ := bind_eq_ok.mp projected
    cases result
    have others : formed.mapM (groupOutput now schema { query with orderBy := none }) =
        .ok (results.map (Option.map OutputRow.bare)) := by
      rw [mapM_eq_ok, List.forall₂_map_right_iff]
      apply (mapM_eq_ok.mp shows).imp
      exact fun _ _ => groupOutput_unordered
    rw [if_pos forms', ← List.reduceOption_map]
    exact bind_eq_ok.mpr ⟨formed, grouped, bind_eq_ok.mpr ⟨_, others, rfl⟩⟩
  · have forms' : ¬ ({ query with orderBy := none } : Select).formsGroups = true := forms
    rw [if_neg forms, mapM_eq_ok] at projected
    rw [if_neg forms', mapM_eq_ok, List.forall₂_map_right_iff]
    apply projected.imp
    exact fun _ _ => rowOutput_unordered

/-! ### Answers -/

/-- Criteria that are left out need not be checked. -/
theorem bind_unordered (binds : query.bind schema = .ok bound) :
    ({ query with orderBy := none } : Select).bind schema =
      .ok { bound with orderBy := none } := by
  obtain ⟨_, columns, binds⟩ := bind_eq_ok.mp binds
  obtain ⟨_, shown, columns⟩ := bind_eq_ok.mp columns
  obtain ⟨_, known, columns⟩ := bind_eq_ok.mp columns
  obtain ⟨_, grouped, columns⟩ := bind_eq_ok.mp columns
  obtain ⟨_, filtered, -⟩ := bind_eq_ok.mp columns
  obtain ⟨_, grouping, binds⟩ := bind_eq_ok.mp binds
  obtain ⟨condition, coerces, result⟩ := bind_eq_ok.mp binds
  cases result
  have columns : ({ query with orderBy := none } : Select).checkColumns schema = .ok () :=
    bind_eq_ok.mpr ⟨(), shown, bind_eq_ok.mpr ⟨(), known, bind_eq_ok.mpr ⟨(), grouped,
      bind_eq_ok.mpr ⟨(), filtered, rfl⟩⟩⟩⟩
  exact bind_eq_ok.mpr ⟨(), columns, bind_eq_ok.mpr ⟨(), grouping,
    bind_eq_ok.mpr ⟨condition, coerces, rfl⟩⟩⟩

/-- Binding does not look at the page that a query asks for. -/
theorem bind_page (binds : query.bind schema = .ok bound) (limit offset : Option Nat) :
    ({ query with limit := limit, offset := offset } : Select).bind schema =
      .ok { bound with limit := limit, offset := offset } := by
  obtain ⟨_, columns, binds⟩ := bind_eq_ok.mp binds
  obtain ⟨_, grouping, binds⟩ := bind_eq_ok.mp binds
  obtain ⟨condition, coerces, result⟩ := bind_eq_ok.mp binds
  cases result
  exact bind_eq_ok.mpr ⟨(), columns, bind_eq_ok.mpr ⟨(), grouping,
    bind_eq_ok.mpr ⟨condition, coerces, rfl⟩⟩⟩

/-- A query is answered by the page of the sorted rows that stem from the rows found. -/
theorem answer_eq_ok {rows : List Row} : query.answer now table = .ok rows ↔
    ∃ found outputs, table.matchingRows now query.condition = .ok found ∧
      query.outputRows now table.schema found = .ok outputs ∧
      rows = (query.page (query.orderBy.elim outputs fun items => OutputRow.sort items outputs)).map
        OutputRow.cells := by
  unfold answer
  simp only [bind_eq_ok, pure_eq_ok]
  cases query.orderBy <;> simp [eq_comm]

/-- Without criteria and limits, a query is answered by all the rows in the order in which
they come. -/
theorem answer_unordered (finds : table.matchingRows now query.condition = .ok found)
    (projected : query.outputRows now table.schema found = .ok outputs)
    (unlimited : query.limit = none) (whole : query.offset = none) :
    ({ query with orderBy := none } : Select).answer now table =
      .ok (outputs.map OutputRow.cells) := by
  apply answer_eq_ok.mpr
  refine ⟨found, outputs.map OutputRow.bare, finds, outputRows_unordered projected, ?_⟩
  simp [page, unlimited, whole, OutputRow.bare]

/-- A page of an answer is a part of the whole answer. -/
theorem answer_page {items : List SortItem}
    (finds : table.matchingRows now query.condition = .ok found)
    (projected : query.outputRows now table.schema found = .ok outputs)
    (ordered : query.orderBy = some items) (limit offset : Nat) :
    ({ query with limit := some limit, offset := some offset } : Select).answer now table =
      .ok ((((OutputRow.sort items outputs).map OutputRow.cells).drop offset).take limit) := by
  apply answer_eq_ok.mpr
  refine ⟨found, outputs, finds, projected, ?_⟩
  simp [page, ordered]

end Select

end Relational
