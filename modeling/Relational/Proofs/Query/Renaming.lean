import Relational.Proofs.Query.Plan
import Relational.Proofs.Table.Renaming

/-!
# Queries do not show identities

Statistics do not depend on identities, so that plans do not either; the rows that
an index finds correspond, so that the rows that meet a condition do; and groups,
aggregates and results look at the cells of rows only.
-/

namespace Relational

namespace Table

variable {now : DateTime} {first second : Table} {rename : RowId → RowId}
  {condition : Option Expr}

namespace Renamed

/-- An index finds the same rows, in their order. -/
theorem lookup?_eq (renamed : Renamed rename first second) (column : String) (value : Value) :
    second.lookup? column value =
      (first.lookup? column value).map (List.map (relabel rename)) := by
  have indexed : (second.lookup? column value).isSome = (first.lookup? column value).isSome := by
    unfold lookup?
    rcases renamed.sound.indexOn?_paired renamed.sound' renamed.schema.symm column with
      ⟨none, none'⟩ | ⟨index, -, index', -, found, found', -⟩
    · rw [none, none']
      rfl
    · rw [found, found']
      rfl
  cases looked : first.lookup? column value with
  | none => rwa [looked, Option.isSome_none, Option.isSome_eq_false_iff, Option.isNone_iff_eq_none]
      at indexed
  | some rows =>
      cases looked' : second.lookup? column value with
      | none => rw [looked, looked'] at indexed; cases indexed
      | some rows' =>
          -- Each index lists its rows in the order of the table, whatever its entries' order.
          obtain ⟨-, position, located, rfl⟩ := lookup?_sublist renamed.sound looked
          obtain ⟨-, position', located', rfl⟩ := lookup?_sublist renamed.sound' looked'
          rw [renamed.schema] at located'
          cases located.symm.trans located'
          rw [renamed.rows, List.filter_map]
          rfl

/-- Tables with the same rows have the same plans. -/
theorem choose_eq (renamed : Renamed rename first second) (condition : Option Expr) :
    Plan.choose second condition = Plan.choose first condition := by
  have count : second.rows.length = first.rows.length := by rw [renamed.rows, List.length_map]
  have visit : Plan.visitAll second = Plan.visitAll first := by
    rw [Plan.visitAll, Plan.visitAll, count]
  cases condition with
  | none => exact visit
  | some expression =>
      have probes : Plan.probes second expression = Plan.probes first expression := by
        simp only [Plan.probes, Plan.probe?, renamed.statistics?_eq]
      rw [Plan.choose, Plan.choose, probes, visit]

/-- An access has the same candidates under other identities. -/
theorem candidates_eq (renamed : Renamed rename first second) (access : Access) :
    access.candidates second = (access.candidates first).map (relabel rename) := by
  cases access with
  | allRows => exact renamed.rows
  | byIndex column value =>
      rw [Access.candidates, Access.candidates, renamed.lookup?_eq, renamed.rows]
      cases first.lookup? column value <;> rfl

end Renamed

/-- Filtering does not look at identities. -/
theorem filterRows_relabel (schema : Schema) (expression : Expr) (entries : List (RowId × Row)) :
    Alike (fun found found' => found' = found.map (relabel rename))
      (filterRows now schema expression entries)
      (filterRows now schema expression (entries.map (relabel rename))) := by
  induction entries with
  | nil => exact .ok rfl
  | cons entry rest ih =>
      rw [List.map_cons, filterRows, filterRows]
      refine (Alike.refl _).bind fun met met' same => ih.bind fun others others' same' => ?_
      subst same same'
      cases met <;> exact .ok rfl

/-- The rows that meet a condition correspond. -/
theorem Renamed.matchingRows (renamed : Renamed rename first second) (now : DateTime)
    (condition : Option Expr) :
    Alike (fun found found' => found' = found.map (relabel rename))
      (first.matchingRows now condition) (second.matchingRows now condition) := by
  unfold Table.matchingRows
  rw [renamed.choose_eq, renamed.candidates_eq, renamed.schema]
  cases condition with
  | none => exact .ok rfl
  | some expression => exact filterRows_relabel _ _ _

end Table

/-! ### Groups -/

namespace Group

open Table

variable {rename : RowId → RowId}

/-- A group of the same rows under other identities. -/
def relabel (rename : RowId → RowId) (group : Group) : Group :=
  { group with rows := group.rows.map (Table.relabel rename) }

/-- Adding a row to its group does not look at identities. -/
theorem addRow_relabel (cells : List Value) (entry : RowId × Row) (groups : List Group) :
    addRow cells (Table.relabel rename entry) (groups.map (relabel rename)) =
      (addRow cells entry groups).map (relabel rename) := by
  induction groups with
  | nil => rfl
  | cons group rest ih =>
      rw [List.map_cons, addRow, addRow, ih]
      change (if alike group.key cells then _ else _) = _
      split
      · simp [relabel]
      · rfl

/-- Grouping rows does not look at identities. -/
theorem extend_relabel (positions : List Nat) (groups : List Group) (rows : List (RowId × Row)) :
    Alike (fun formed formed' => formed' = formed.map (relabel rename))
      (extend positions groups rows)
      (extend positions (groups.map (relabel rename)) (rows.map (Table.relabel rename))) := by
  induction rows generalizing groups with
  | nil => exact .ok rfl
  | cons entry rest ih =>
      rw [List.map_cons, extend, extend]
      refine (Alike.refl _).bind fun cells cells' same => ?_
      subst same
      rw [addRow_relabel]
      exact ih _

end Group

/-! ### Results -/

/-- Feeding what changed items give is feeding what the items give after the change. -/
theorem Accumulator.feedEach_map {α β : Type} (valueOf : β → Except Error Value) (change : α → β)
    (state : Accumulator) (items : List α) :
    feedEach valueOf state (items.map change) =
      feedEach (fun item => valueOf (change item)) state items := by
  induction items generalizing state with
  | nil => rfl
  | cons item rest ih =>
      rw [List.map_cons, feedEach, feedEach]
      simp only [ih]

namespace Select

variable {now : DateTime} {schema : Schema} {rename : RowId → RowId}

/-- The value of an aggregate does not depend on identities. -/
theorem aggregateValue_relabel (rows : List (RowId × Row)) :
    aggregateValue now schema (rows.map (Table.relabel rename)) =
      aggregateValue now schema rows := by
  funext call
  cases call with
  | aggregate function argument distinct =>
      rw [aggregateValue, aggregateValue, Accumulator.feedEach_map]
      rfl
  | _ => rfl

theorem groupOutput_relabel (query : Select) (group : Group) :
    groupOutput now schema query (group.relabel rename) = groupOutput now schema query group := by
  unfold groupOutput
  simp only [Group.relabel, aggregateValue_relabel]

/-- The groups are the same under other identities. -/
theorem groups_relabel (query : Select) (rows : List (RowId × Row)) :
    Alike (fun formed formed' => formed' = formed.map (Group.relabel rename))
      (query.groups schema rows) (query.groups schema (rows.map (Table.relabel rename))) := by
  unfold groups
  split
  · refine (Alike.refl _).bind fun positions positions' same => ?_
    subst same
    exact Group.extend_relabel positions [] rows
  · exact .ok rfl

/-- The rows of a result do not depend on identities. -/
theorem outputRows_relabel (query : Select) (rows : List (RowId × Row)) :
    query.outputRows now schema (rows.map (Table.relabel rename)) =
      query.outputRows now schema rows := by
  unfold outputRows
  split
  · refine (Alike.bind (groups_relabel query rows) fun formed formed' same => ?_).eq.symm
    subst same
    have outputs : (formed.map (Group.relabel rename)).mapM (groupOutput now schema query) =
        formed.mapM (groupOutput now schema query) := by
      rw [List.mapM_map]
      exact congrArg (formed.mapM ·) (funext fun group => groupOutput_relabel query group)
    rw [outputs]
    exact Alike.refl _
  · rw [List.mapM_map]
    rfl

/-- A query has one answer for tables that show the same rows. -/
theorem answer_eq {first second : Table} (equivalent : first.Equivalent second) (now : DateTime)
    (query : Select) : query.answer now second = query.answer now first := by
  obtain ⟨rename, renamed⟩ := equivalent.exists_renamed
  refine (Alike.bind (renamed.matchingRows now query.condition) fun found found' same => ?_).eq.symm
  subst same
  rw [outputRows_relabel, renamed.schema]
  exact Alike.refl _

end Select

/-! ### New rows -/

/-- Assignments leave a row as wide as it is. -/
theorem Update.assign_length {scope : Scope} {schema : Schema} {assignments : List (Nat × Expr)}
    {row changed : Row} (assigns : assign scope schema assignments row = .ok changed) :
    changed.length = row.length := by
  induction assignments generalizing row with
  | nil => cases assigns; rfl
  | cons assignment rest ih =>
      obtain ⟨_, -, assigns⟩ := bind_eq_ok.mp assigns
      obtain ⟨_, -, assigns⟩ := bind_eq_ok.mp assigns
      obtain ⟨_, -, assigns⟩ := bind_eq_ok.mp assigns
      obtain ⟨replaced, replaces, assigns⟩ := bind_eq_ok.mp assigns
      obtain ⟨-, rfl⟩ := Row.withCell_eq_ok_iff.mp replaces
      exact (ih assigns).trans List.length_set

namespace Update

variable {now : DateTime} {first second : Table} {rename : RowId → RowId} {bound : BoundUpdate}

/-- An update computes the same new rows, for identities that correspond. -/
theorem changes_relabel (renamed : Table.Renamed rename first second) (now : DateTime)
    (bound : BoundUpdate) :
    Alike (fun computed computed' => computed' = computed.map (Table.relabel rename))
      (changes now first bound) (changes now second bound) := by
  refine (renamed.matchingRows now bound.condition).bind fun found found' same => ?_
  subst same
  rw [renamed.schema]
  refine Alike.mapM fun entry _ => ?_
  refine (Alike.refl _).bind fun changed changed' same => ?_
  subst same
  exact .ok rfl

/-- New rows are for identities of the table and as wide as its schema. -/
theorem changes_fit {table : Table} (sound : table.Sound) {computed : List (RowId × Row)}
    (computes : changes now table bound = .ok computed) : ∀ change ∈ computed,
      change.1 ∈ table.ids ∧ change.2.length = table.schema.columns.length := by
  obtain ⟨found, finds, computes⟩ := bind_eq_ok.mp computes
  intro change member
  obtain ⟨entry, among, computed⟩ := exists_of_mem_mapM computes member
  obtain ⟨changed, assigns, result⟩ := bind_eq_ok.mp computed
  cases result
  have listed := Table.mem_of_matchingRows sound finds among
  exact ⟨List.mem_map.mpr ⟨entry, listed, rfl⟩,
    (assign_length assigns).trans (sound.width entry listed)⟩

/-- What an update prepares for tables that correspond. -/
theorem changes_alike (renamed : Table.Renamed rename first second) (now : DateTime)
    (bound : BoundUpdate) :
    Alike (fun computed computed' => computed' = computed.map (Table.relabel rename) ∧
        ∀ change ∈ computed,
          change.1 ∈ first.ids ∧ change.2.length = first.schema.columns.length)
      (changes now first bound) (changes now second bound) :=
  (changes_relabel renamed now bound).imp fun _ _ computes _ same =>
    ⟨same, changes_fit renamed.sound computes⟩

end Update

/-- What a removal prepares for tables that correspond. -/
theorem Table.Renamed.found_alike {first second : Table} {rename : RowId → RowId}
    (renamed : Renamed rename first second) (now : DateTime) (condition : Option Expr) :
    Alike (fun found found' => found'.map Prod.fst = (found.map Prod.fst).map rename ∧
        (∀ id ∈ found.map Prod.fst, id ∈ first.ids) ∧ (found.map Prod.fst).Nodup)
      (first.matchingRows now condition) (second.matchingRows now condition) := by
  refine (renamed.matchingRows now condition).imp fun found found' finds _ same => ?_
  have sublist : (found.map Prod.fst).Sublist first.ids :=
    (sublist_of_matchingRows renamed.sound finds).map Prod.fst
  refine ⟨?_, fun id member => sublist.subset member, ?_⟩
  · rw [same, List.map_map, List.map_map]
    rfl
  · exact sublist.nodup renamed.sound.ascending.keys_nodup

end Relational
