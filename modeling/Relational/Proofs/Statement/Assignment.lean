import Relational.Proofs.Statement.Typing

/-!
# What an update says of a row

An update assigns contents to different columns, none of them the primary key.
All contents are computed from the row as it was, so that it does not matter in
which order they are written, or which columns they read.
-/

namespace Relational

/-- What goes with an item of a list goes with the item that corresponds to it. -/
theorem exists_mem_zip_of_forall₂ {α β γ : Type} {related : α → β → Prop} {items : List α}
    {others : List β} (follow : List.Forall₂ related items others) {contents : List γ} {item : α}
    {content : γ} (member : (item, content) ∈ items.zip contents) :
    ∃ other, related item other ∧ (other, content) ∈ others.zip contents := by
  induction follow generalizing contents with
  | nil => cases member
  | cons first _ ih =>
      cases contents with
      | nil => cases member
      | cons head tail =>
          rcases List.mem_cons.mp member with same | later
          · cases same
            exact ⟨_, first, List.mem_cons_self⟩
          · obtain ⟨other, relates, among⟩ := ih later
            exact ⟨other, relates, List.mem_cons_of_mem _ among⟩

/-- Different columns are at different positions. -/
theorem Schema.position_biUnique (schema : Schema) :
    Relator.BiUnique fun column position => schema.position column = .ok position := by
  constructor
  · intro column position other located located'
    have named := getElem?_columnNames_of_position? (position_eq_ok_iff.mp located)
    have named' := getElem?_columnNames_of_position? (position_eq_ok_iff.mp located')
    exact Option.some.inj (named.symm.trans named')
  · intro column position other located located'
    exact Except.ok.inj (located.symm.trans located')

/-- What a content evaluates to becomes a cell of a column. -/
def Expr.Makes (scope : Scope) (column : Column) (content : Expr) (cell : Value) : Prop :=
  ∃ value, content.evaluate scope = .ok value ∧ value.coerce column.type column.name = .ok cell

namespace Update

variable {scope : Scope} {schema : Schema} {row changed : Row}

/-- Assigning to different positions changes these cells only, each to what its
content makes in the scope. -/
theorem assign_eq_ok {targets : List (Nat × Expr)} (differ : (targets.map Prod.fst).Nodup)
    (assigns : assign scope schema targets row = .ok changed) :
    (∀ position ∉ targets.map Prod.fst, changed[position]? = row[position]?) ∧
      ∀ target ∈ targets, ∃ column cell, schema.columns[target.1]? = some column ∧
        Expr.Makes scope column target.2 cell ∧ changed[target.1]? = some cell := by
  induction targets generalizing row with
  | nil =>
      cases assigns
      exact ⟨fun _ _ => rfl, nofun⟩
  | cons target rest ih =>
      obtain ⟨position, content⟩ := target
      obtain ⟨absent, differ⟩ := List.nodup_cons.mp differ
      obtain ⟨column, declared, assigns⟩ := bind_eq_ok.mp assigns
      obtain ⟨value, evaluates, assigns⟩ := bind_eq_ok.mp assigns
      obtain ⟨cell, coerces, assigns⟩ := bind_eq_ok.mp assigns
      obtain ⟨following, replaced, assigns⟩ := bind_eq_ok.mp assigns
      obtain ⟨inside, rfl⟩ := Row.withCell_eq_ok_iff.mp replaced
      obtain ⟨others, each⟩ := ih differ assigns
      refine ⟨fun other elsewhere => ?_, fun target member => ?_⟩
      · rw [List.map_cons, List.mem_cons, not_or] at elsewhere
        rw [others other elsewhere.2, List.getElem?_set_ne (Ne.symm elsewhere.1)]
      · rcases List.mem_cons.mp member with rfl | later
        · refine ⟨column, cell, Schema.columnAt_eq_ok_iff.mp declared, ⟨value, evaluates, coerces⟩, ?_⟩
          rw [others position absent, List.getElem?_set_self inside]
        · exact each target later

/-! ### What binding makes sure of -/

/-- The targets of assignments are accepted exactly if they do not repeat a column and leave
out the primary key. -/
theorem checkTargets_eq_ok_iff {seen columns : List String} :
    checkTargets schema seen columns = .ok () ↔
      schema.keyName ∉ columns ∧ columns.Nodup ∧ ∀ column ∈ columns, column ∉ seen := by
  induction columns generalizing seen with
  | nil => simp [checkTargets]
  | cons column rest ih =>
      rw [checkTargets]
      by_cases key : column = schema.keyName
      · simp [key]
      by_cases repeated : column ∈ seen
      · simp [key, repeated]
      · rw [if_neg key, if_neg repeated, ih]
        simp only [List.mem_cons, List.nodup_cons, not_or, forall_eq_or_imp]
        constructor
        · rintro ⟨no_key, differ, fresh⟩
          exact ⟨⟨Ne.symm key, no_key⟩,
            ⟨fun member => (fresh column member).1 rfl, differ⟩, repeated,
            fun other member => (fresh other member).2⟩
        · rintro ⟨⟨-, no_key⟩, ⟨absent, differ⟩, -, fresh⟩
          exact ⟨no_key, differ, fun other member =>
            ⟨fun same => absent (same ▸ member), fresh other member⟩⟩

/-- A bound content stands at the position of its column, and makes there only
what the content makes that was written. -/
theorem bindAssignment_eq_ok {position : Nat} {content : Expr} {target : Nat × Expr}
    (binds : bindAssignment schema position content = .ok target) (scope : Scope) :
    target.1 = position ∧ ∀ column cell, schema.columns[position]? = some column →
      Expr.Makes scope column target.2 cell → Expr.Makes scope column content cell := by
  obtain ⟨_, -, binds⟩ := bind_eq_ok.mp binds
  obtain ⟨column, declared, binds⟩ := bind_eq_ok.mp binds
  have declared := Schema.columnAt_eq_ok_iff.mp declared
  split at binds
  · obtain ⟨coerced, coerces, result⟩ := bind_eq_ok.mp binds
    cases result
    refine ⟨rfl, fun column' cell declared' makes => ?_⟩
    cases declared.symm.trans declared'
    obtain ⟨_, evaluates, again⟩ := makes
    cases evaluates
    -- The literal was coerced when it was bound, and is coerced once more in vain.
    cases (Value.coerce_of_fits (Value.coerce_fits coerces) column.name).symm.trans again
    exact ⟨_, rfl, coerces⟩
  · cases binds
    exact ⟨rfl, fun _ _ _ makes => makes⟩

/-- What binding an update has made sure of when it succeeds. -/
theorem targets_of_bind {change : Update} {bound : BoundUpdate}
    (binds : change.bind schema = .ok bound) :
    ∃ positions, List.Forall₂ (fun column position => schema.position column = .ok position)
        (change.assignments.map Prod.fst) positions ∧
      checkTargets schema [] (change.assignments.map Prod.fst) = .ok () ∧
      List.Forall₂ (fun target assigned => bindAssignment schema target.1 target.2 = .ok assigned)
        (positions.zip (change.assignments.map Prod.snd)) bound.assignments := by
  obtain ⟨positions, located, binds⟩ := bind_eq_ok.mp binds
  obtain ⟨_, -, binds⟩ := bind_eq_ok.mp binds
  obtain ⟨_, targets, binds⟩ := bind_eq_ok.mp binds
  obtain ⟨_, -, binds⟩ := bind_eq_ok.mp binds
  obtain ⟨assigned, each, binds⟩ := bind_eq_ok.mp binds
  obtain ⟨condition, -, result⟩ := bind_eq_ok.mp binds
  cases result
  refine ⟨positions, ?_, targets, mapM_eq_ok.mp each⟩
  rw [List.forall₂_map_left_iff]
  refine (mapM_eq_ok.mp located).imp fun assignment position found => ?_
  obtain ⟨other, found, rest⟩ := bind_eq_ok.mp found
  obtain ⟨_, -, result⟩ := bind_eq_ok.mp rest
  cases result
  exact found

/-! ### The row that an update describes -/

/-- An update assigns a content to a column. -/
def Assigns (change : Update) (column : String) (content : Expr) : Prop :=
  (column, content) ∈ change.assignments

/-- What an update makes of a row: it assigns different columns of the table, none of
them the primary key, each of these cells is what its content makes of the row as it
was, and the others stay as they are. -/
structure Describes (now : DateTime) (schema : Schema) (change : Update) (row changed : Row) :
    Prop where
  names_differ : (change.assignments.map Prod.fst).Nodup
  known : ∀ column content, change.Assigns column content → column ∈ schema.columnNames
  no_key : ∀ content, ¬ change.Assigns schema.keyName content
  width : changed.length = row.length
  assigned : ∀ (position : Nat) (column : Column) (content : Expr),
    schema.columns[position]? = some column → change.Assigns column.name content →
    ∃ cell, Expr.Makes (Scope.ofRow now schema row) column content cell ∧ changed[position]? = some cell
  others : ∀ (position : Nat) (column : Column), schema.columns[position]? = some column →
    (∀ content, ¬ change.Assigns column.name content) → changed[position]? = row[position]?

variable {now : DateTime} {change : Update} {bound : BoundUpdate}

/-- The row that a bound update makes is the one that the update describes. -/
theorem assign_describes (valid : schema.Valid) (typed : Row.Typed schema.columns row)
    (binds : change.bind schema = .ok bound)
    (assigns : assign (Scope.ofRow now schema row) schema bound.assignments row = .ok changed) :
    change.Describes now schema row changed := by
  obtain ⟨positions, located, targets, follow⟩ := targets_of_bind binds
  obtain ⟨no_key, differ, -⟩ := checkTargets_eq_ok_iff.mp targets
  have bound_positions : bound.assignments.map Prod.fst = positions := by
    have kept : List.Forall₂ Eq ((positions.zip (change.assignments.map Prod.snd)).map Prod.fst)
        (bound.assignments.map Prod.fst) := by
      rw [List.forall₂_map_left_iff, List.forall₂_map_right_iff]
      exact follow.imp fun target assigned binds =>
        (bindAssignment_eq_ok binds (Scope.ofRow now schema row)).1.symm
    rw [List.forall₂_eq_eq_eq] at kept
    rw [← kept]
    exact List.map_fst_zip (by simp [← located.length_eq])
  have apart : (bound.assignments.map Prod.fst).Nodup := by
    rw [bound_positions]
    exact (List.rel_nodup schema.position_biUnique located).mp differ
  obtain ⟨kept, each⟩ := assign_eq_ok apart assigns
  -- An assigned column has its position among the bound assignments.
  have targeted : ∀ {column content}, change.Assigns column content →
      ∃ position target, schema.position? column = some position ∧ target ∈ bound.assignments ∧
        bindAssignment schema position content = .ok target := by
    intro column content among
    have paired : (column, content) ∈
        (change.assignments.map Prod.fst).zip (change.assignments.map Prod.snd) := by
      rw [List.zip_map']
      exact List.mem_map.mpr ⟨_, among, rfl⟩
    obtain ⟨position, found, among⟩ := exists_mem_zip_of_forall₂ located paired
    obtain ⟨target, member, binds⟩ := exists_of_forall₂ follow among
    exact ⟨position, target, Schema.position_eq_ok_iff.mp found, member, binds⟩
  refine ⟨differ, ?_, ?_, (assign_typed typed assigns).width.trans typed.width.symm, ?_, ?_⟩
  · intro column content among
    obtain ⟨position, -, found, -⟩ := targeted among
    exact List.mem_of_getElem? (Schema.getElem?_columnNames_of_position? found)
  · intro content among
    exact no_key (List.mem_map_of_mem among)
  · intro position column content declared among
    obtain ⟨other, target, found, member, binds⟩ := targeted among
    obtain ⟨here, makes⟩ := bindAssignment_eq_ok binds (Scope.ofRow now schema row)
    cases found.symm.trans (valid.position?_of_columns declared)
    obtain ⟨column', cell, declared', made, stands⟩ := each target member
    rw [here] at declared' stands
    cases declared.symm.trans declared'
    exact ⟨cell, makes column cell declared made, stands⟩
  · intro position column declared unassigned
    refine kept position fun member => ?_
    rw [bound_positions] at member
    obtain ⟨name, member, found⟩ := exists_of_forall₂ located.flip member
    have named := schema.position_biUnique.1 found
      (Schema.position_eq_ok_iff.mpr (valid.position?_of_columns declared))
    obtain ⟨assignment, among, rfl⟩ := List.mem_map.mp member
    exact unassigned assignment.2 (named ▸ among)

end Update

end Relational
