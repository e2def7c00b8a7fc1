import Relational.Proofs.Database.Query
import Relational.Proofs.Database.Change
import Relational.Proofs.Value.Equality

/-!
# Applying changes that were computed

An update that has computed its new rows, and a removal that has found its rows,
can hardly fail any more.  Every row is where it was found, and no new row has
another primary key than the old one, since binding rejects an assignment to that
column.  A table checks this once more, by the equality of cells: a key that is
NaN differs from itself, so that its row cannot be updated at all.
-/

namespace Relational

/-- A float equals itself exactly if it is a number. -/
theorem Binary64.equal_self (x : Binary64) : Binary64.equal x x = !x.isNaN := by
  unfold Binary64.equal Binary64.compare?
  cases x.isNaN with
  | true => rfl
  | false => simp

/-- Every value but NaN is the same as itself. -/
theorem Value.same_self (value : Value) : value.same value = !value.isNaN := by
  cases value with
  | float x => exact Binary64.equal_self x
  | null => rfl
  | integer n => exact beq_self_eq_true n
  | boolean b => exact beq_self_eq_true b
  | text s => exact beq_self_eq_true s

/-- Whether the primary key of a row is a float that denotes no number. -/
def Row.keyIsNaN (schema : Schema) (row : Row) : Bool :=
  row[schema.keyPosition]?.any Value.isNaN

namespace Table

variable {table : Table} {log : ChangeLog}

/-- The row of a change has the primary key of the row that it replaces. -/
def KeepsKey (table : Table) (change : RowId × Row) : Prop :=
  ∃ before key, viewOf table.rows change.1 = some before ∧
    before[table.schema.keyPosition]? = some key ∧
    change.2[table.schema.keyPosition]? = some key

/-- A change that keeps the primary key is refused exactly if that is NaN. -/
theorem update_of_keepsKey {id : RowId} {row : Row} (keeps : table.KeepsKey (id, row)) :
    (row.keyIsNaN table.schema = true ∧
        table.update id row = .error (.constraint (.primaryKeyUpdate table.schema.keyName))) ∨
      row.keyIsNaN table.schema = false ∧
        ∃ changed before, table.update id row = .ok (changed, before) := by
  obtain ⟨before, key, stands, old, new⟩ := keeps
  have undefined : row.keyIsNaN table.schema = key.isNaN := by
    rw [Row.keyIsNaN, new]
    rfl
  cases number : key.isNaN with
  | true =>
      refine .inl ⟨undefined.trans number, ?_⟩
      refine bind_eq_error.mpr (.inr ⟨before, existing_eq_ok_iff.mpr stands,
        bind_eq_error.mpr (.inr ⟨key, cell_eq_ok_iff.mpr old,
          bind_eq_error.mpr (.inr ⟨key, cell_eq_ok_iff.mpr new, ?_⟩)⟩)⟩)
      rw [Value.same_self, number]
      rfl
  | false =>
      refine .inr ⟨undefined.trans number, _, before, update_eq_ok_iff.mpr
        ⟨stands, ⟨key, key, old, new, ?_⟩, rfl⟩⟩
      rw [Value.same_self, number]
      rfl

/-- Changing one row leaves what other changes rely on. -/
theorem KeepsKey.of_update {changed : Table} {id : RowId} {row before : Row}
    (updated : table.update id row = .ok (changed, before)) {change : RowId × Row}
    (elsewhere : change.1 ≠ id) (keeps : table.KeepsKey change) : changed.KeepsKey change := by
  obtain ⟨-, -, rfl⟩ := update_eq_ok_iff.mp updated
  obtain ⟨kept, key, stands, old, new⟩ := keeps
  refine ⟨kept, key, ?_, old, new⟩
  rw [viewOf, lookup_map_at]
  simp only [elsewhere, ↓reduceIte, Option.map_id']
  exact stands

/-- Changes of different rows that keep the primary keys are made as a whole,
unless one of these is NaN. -/
theorem applyUpdates_of_keepsKey {changes : List (RowId × Row)}
    (differ : (changes.map Prod.fst).Nodup) (keeps : ∀ change ∈ changes, table.KeepsKey change) :
    (table.applyUpdates log changes).2 =
      if changes.any fun change => change.2.keyIsNaN table.schema then
        .error (.constraint (.primaryKeyUpdate table.schema.keyName))
      else .ok (log.length + changes.length) := by
  induction changes generalizing table log with
  | nil => rfl
  | cons change rest ih =>
      obtain ⟨id, row⟩ := change
      obtain ⟨once, differ⟩ := List.nodup_cons.mp differ
      obtain ⟨head, tail⟩ := List.forall_mem_cons.mp keeps
      rw [applyUpdates, List.any_cons]
      rcases update_of_keepsKey head with ⟨undefined, refused⟩ | ⟨number, changed, before, updated⟩
      · rw [refused, undefined, Bool.true_or, if_pos rfl]
      · have schema : changed.schema = table.schema := by
          obtain ⟨-, -, rfl⟩ := update_eq_ok_iff.mp updated
          rfl
        have others : ∀ change ∈ rest, changed.KeepsKey change := fun change member =>
          (tail change member).of_update updated fun same =>
            once (List.mem_map.mpr ⟨change, member, same⟩)
        rw [updated, number, Bool.false_or]
        refine (ih differ others).trans ?_
        rw [schema, List.length_cons, List.length_cons, Nat.add_right_comm, Nat.add_assoc]

/-- Different rows that exist are removed as a whole. -/
theorem applyDeletes_of_mem {ids : List RowId} (differ : ids.Nodup)
    (exist : ∀ id ∈ ids, ∃ row, viewOf table.rows id = some row) :
    (table.applyDeletes log ids).2 = .ok (log.length + ids.length) := by
  induction ids generalizing table log with
  | nil => rfl
  | cons id rest ih =>
      obtain ⟨once, differ⟩ := List.nodup_cons.mp differ
      obtain ⟨⟨row, stands⟩, tail⟩ := List.forall_mem_cons.mp exist
      rw [applyDeletes, delete_eq_ok_iff.mpr ⟨stands, rfl⟩]
      refine (ih differ fun other member => ?_).trans ?_
      · obtain ⟨kept, stands'⟩ := tail other member
        refine ⟨kept, ?_⟩
        change (table.rows.filter fun entry => entry.1 ≠ id).lookup other = some kept
        have elsewhere : other ≠ id := fun same => once (same ▸ member)
        rw [lookup_filter_ne, if_neg elsewhere]
        exact stands'
      · rw [List.length_cons, List.length_cons, Nat.add_right_comm, Nat.add_assoc]

end Table

/-! ### Statements that have come to applying -/

namespace Update

variable {now : DateTime} {scope : Scope} {schema : Schema} {table : Table} {change : Update}
  {bound : BoundUpdate} {found : List (RowId × Row)}

/-- A bound assignment stands at the position of a column. -/
theorem inside_of_bind (binds : change.bind schema = .ok bound) (scope : Scope) :
    ∀ target ∈ bound.assignments, target.1 < schema.columns.length := by
  obtain ⟨positions, -, -, follow⟩ := targets_of_bind binds
  intro target member
  obtain ⟨written, -, assigned⟩ := exists_of_forall₂ follow.flip member
  rw [(bindAssignment_eq_ok assigned scope).1]
  obtain ⟨_, -, assigned⟩ := bind_eq_ok.mp assigned
  obtain ⟨column, declared, -⟩ := bind_eq_ok.mp assigned
  exact (List.getElem?_eq_some_iff.mp (Schema.columnAt_eq_ok_iff.mp declared)).1

/-- A row is assigned to if all new cells can be made. -/
theorem exists_assign {targets : List (Nat × Expr)} {row : Row}
    (wide : row.length = schema.columns.length)
    (inside : ∀ target ∈ targets, target.1 < schema.columns.length)
    (makes : ∀ target ∈ targets, ∀ column, schema.columns[target.1]? = some column →
      ∃ cell, Expr.Makes scope column target.2 cell) :
    ∃ changed, assign scope schema targets row = .ok changed := by
  induction targets generalizing row with
  | nil => exact ⟨row, rfl⟩
  | cons target rest ih =>
      obtain ⟨within, inside⟩ := List.forall_mem_cons.mp inside
      obtain ⟨head, tail⟩ := List.forall_mem_cons.mp makes
      have declared := List.getElem?_eq_getElem within
      obtain ⟨cell, value, evaluates, coerces⟩ := head _ declared
      have replaced : Row.withCell row target.1 cell = .ok (row.set target.1 cell) :=
        Row.withCell_eq_ok_iff.mpr ⟨within.trans_eq wide.symm, rfl⟩
      obtain ⟨changed, assigns⟩ := ih ((List.length_set ..).trans wide) inside tail
      exact ⟨changed, bind_eq_ok.mpr ⟨_, Schema.columnAt_eq_ok_iff.mpr declared,
        bind_eq_ok.mpr ⟨value, evaluates, bind_eq_ok.mpr ⟨cell, coerces,
          bind_eq_ok.mpr ⟨_, replaced, assigns⟩⟩⟩⟩⟩

/-- An update that binds, whose rows are found and whose new cells can all be
made. -/
structure Ready (now : DateTime) (database : Database) (change : Update) (table : Table)
    (bound : BoundUpdate) (found : List (RowId × Row)) : Prop where
  filed : database.tables.get? change.table = some table
  binds : change.bind table.schema = .ok bound
  finds : table.matchingRows now bound.condition = .ok found
  makes : ∀ entry ∈ found, ∀ target ∈ bound.assignments, ∀ column,
    table.schema.columns[target.1]? = some column →
      ∃ cell, Expr.Makes (Scope.ofRow now table.schema entry.2) column target.2 cell

/-- Such an update computes a new row for each row found. -/
theorem Ready.exists_changes {database : Database} (wellTyped : table.WellTyped)
    (ready : Ready now database change table bound found) :
    ∃ computed, changes now table bound = .ok computed ∧
      List.Forall₂ (fun entry result => result.1 = entry.1 ∧
        assign (Scope.ofRow now table.schema entry.2) table.schema bound.assignments entry.2 =
          .ok result.2) found computed := by
  have each : ∀ entry ∈ found, ∃ row, assign (Scope.ofRow now table.schema entry.2) table.schema
      bound.assignments entry.2 = .ok row := by
    intro entry member
    have stands := Table.mem_of_matchingRows wellTyped.toSound ready.finds member
    exact exists_assign (wellTyped.width entry stands)
      (inside_of_bind ready.binds (Scope.ofRow now table.schema entry.2)) (ready.makes entry member)
  choose! row assigns using each
  refine ⟨found.map fun entry => (entry.1, row entry), ?_, ?_⟩
  · refine bind_eq_ok.mpr ⟨found, ready.finds, mapM_eq_ok.mpr ?_⟩
    rw [List.forall₂_map_right_iff, List.forall₂_same]
    exact fun entry member => bind_eq_ok.mpr ⟨_, assigns entry member, rfl⟩
  · rw [List.forall₂_map_right_iff, List.forall₂_same]
    exact fun entry member => ⟨rfl, assigns entry member⟩

end Update

/-- A removal that binds and whose rows are found. -/
structure Delete.Ready (now : DateTime) (database : Database) (removal : Delete) (table : Table)
    (condition : Option Expr) (found : List (RowId × Row)) : Prop where
  filed : database.tables.get? removal.table = some table
  binds : Expr.bindCondition table.schema removal.condition = .ok condition
  finds : table.matchingRows now condition = .ok found

namespace Database

variable {now : DateTime} {database : Database} {table : Table} {found : List (RowId × Row)}

/-- What is left of an update is to replace rows under the keys that they have. -/
theorem Sound.update_applied {change : Update} {bound : BoundUpdate} (sound : database.Sound)
    (ready : change.Ready now database table bound found) :
    (database.execute now (.update change)).2 =
      if found.any fun entry => entry.2.keyIsNaN table.schema then
        .error (.constraint (.primaryKeyUpdate table.schema.keyName))
      else .ok (.changed found.length) := by
  have wellTyped := sound.wellTyped _ _ ready.filed
  obtain ⟨computed, computes, follow⟩ := ready.exists_changes wellTyped
  have among : ∀ entry ∈ found, entry ∈ table.rows := fun entry member =>
    Table.mem_of_matchingRows wellTyped.toSound ready.finds member
  have ids : computed.map Prod.fst = found.map Prod.fst := by
    rw [← List.forall₂_eq_eq_eq, List.forall₂_map_left_iff, List.forall₂_map_right_iff]
    exact (follow.imp fun entry result both => both.1).flip
  have differ : (computed.map Prod.fst).Nodup := by
    rw [ids]
    exact wellTyped.ascending.keys_nodup.sublist
      ((Table.sublist_of_matchingRows wellTyped.toSound ready.finds).map _)
  have kept : List.Forall₂ (fun entry result => entry ∈ table.rows ∧ result.1 = entry.1 ∧
      result.2[table.schema.keyPosition]? = entry.2[table.schema.keyPosition]?) found computed := by
    refine ((List.forall₂_and_left _ _).mpr ⟨among, follow⟩).imp ?_
    intro entry result ⟨member, same, assigns⟩
    exact ⟨member, same, (Update.assign_describes wellTyped.valid (wellTyped.typed entry member)
      ready.binds assigns).key_kept wellTyped.valid⟩
  have keeps : ∀ result ∈ computed, table.KeepsKey result := by
    intro result member
    obtain ⟨entry, -, stands, same, cell⟩ := exists_of_forall₂ kept.flip member
    obtain ⟨key, holds, -⟩ := wellTyped.toSound.consistent.key_present entry stands
    exact ⟨entry.2, key, same ▸ wellTyped.viewOf_of_mem stands, holds, cell.trans holds⟩
  have undefined : (computed.any fun result => result.2.keyIsNaN table.schema) =
      found.any fun entry => entry.2.keyIsNaN table.schema := by
    have keys : (computed.map fun result => result.2[table.schema.keyPosition]?) =
        found.map fun entry => entry.2[table.schema.keyPosition]? := by
      rw [← List.forall₂_eq_eq_eq, List.forall₂_map_left_iff, List.forall₂_map_right_iff]
      exact (kept.imp fun entry result both => both.2.2).flip
    have each := congrArg (List.any · (Option.any Value.isNaN)) keys
    simp only [List.any_map] at each
    exact each
  have prepared : database.prepareUpdate now change = .ok (table, computed) :=
    bind_eq_ok.mpr ⟨table, table_eq_ok_iff.mpr ready.filed, bind_eq_ok.mpr ⟨bound, ready.binds,
      bind_eq_ok.mpr ⟨computed, computes, rfl⟩⟩⟩
  rw [Database.execute, prepared]
  change Except.map Outcome.changed (table.applyUpdates [] computed).2 = _
  rw [Table.applyUpdates_of_keepsKey differ keeps, undefined, ← follow.length_eq]
  split
  · rfl
  · rw [List.length_nil, Nat.zero_add]
    rfl

/-- What is left of a removal is to remove rows that exist. -/
theorem Sound.delete_applied {removal : Delete} {condition : Option Expr} (sound : database.Sound)
    (ready : removal.Ready now database table condition found) :
    (database.execute now (.delete removal)).2 = .ok (.changed found.length) := by
  have wellTyped := sound.wellTyped _ _ ready.filed
  have differ : (found.map Prod.fst).Nodup := wellTyped.ascending.keys_nodup.sublist
    ((Table.sublist_of_matchingRows wellTyped.toSound ready.finds).map _)
  have exist : ∀ id ∈ found.map Prod.fst, ∃ row, viewOf table.rows id = some row := by
    intro id member
    obtain ⟨entry, listed, rfl⟩ := List.mem_map.mp member
    exact ⟨entry.2, wellTyped.viewOf_of_mem
      (Table.mem_of_matchingRows wellTyped.toSound ready.finds listed)⟩
  have prepared : database.prepareDelete now removal = .ok (table, found.map Prod.fst) :=
    bind_eq_ok.mpr ⟨table, table_eq_ok_iff.mpr ready.filed, bind_eq_ok.mpr ⟨condition, ready.binds,
      bind_eq_ok.mpr ⟨found, ready.finds, rfl⟩⟩⟩
  rw [Database.execute, prepared]
  change Except.map Outcome.changed (table.applyDeletes [] (found.map Prod.fst)).2 = _
  rw [Table.applyDeletes_of_mem differ exist, List.length_nil, Nat.zero_add, List.length_map]
  rfl

/-- Once its rows are found and its new cells are made, an update of a reachable
database succeeds unless one of these rows has a primary key that is NaN, and a
removal always does. -/
theorem Reachable.ready_applied (reachable : database.Reachable) (now : DateTime) :
    (∀ (change : Update) table bound found, change.Ready now database table bound found →
      (database.execute now (.update change)).2 =
        if found.any fun entry => entry.2.keyIsNaN table.schema then
          .error (.constraint (.primaryKeyUpdate table.schema.keyName))
        else .ok (.changed found.length)) ∧
    (∀ (removal : Delete) table condition found, removal.Ready now database table condition found →
      (database.execute now (.delete removal)).2 = .ok (.changed found.length)) :=
  ⟨fun _ _ _ _ ready => reachable.sound.update_applied ready,
    fun _ _ _ _ ready => reachable.sound.delete_applied ready⟩

/-! ### A row that cannot be updated -/

/-- A note for the tanks with a level above 1. -/
def annotating : Update :=
  ⟨"tank", [("note", .literal (.text "half"))],
    some (.binary .greater (.column "level") (.literal (.float ⟨0x3ff0000000000000⟩)))⟩

/-- The removal of all tanks. -/
def draining : Delete :=
  ⟨"tank", none⟩

/-- The removal of the notes of all tanks. -/
def blanking : Update :=
  ⟨"tank", [("note", .literal .null)], none⟩

/-- A literal of the type of the notes makes a note on every row. -/
theorem makes_note {value : Value} (fits : value.Fits .text) (rows : List (RowId × Row)) :
    ∀ entry ∈ rows, ∀ target ∈ [(1, Expr.literal value)], ∀ column,
      adjustedTanks.schema.columns[target.1]? = some column →
        ∃ cell, Expr.Makes (Scope.ofRow leapDay adjustedTanks.schema entry.2) column target.2 cell := by
  intro entry _ target member column declared
  cases List.mem_singleton.mp member
  cases declared
  exact ⟨value, value, rfl, Value.coerce_of_fits fits "note"⟩

/-- A note is made on the tank above level 1, and all tanks are removed, the one with an
undefined level among them. -/
theorem plant_applied : plant.Reachable ∧
    (∃ bound, annotating.Ready leapDay plant adjustedTanks bound
        [(1, [.float ⟨0x4004000000000000⟩, .null])] ∧
      (plant.execute leapDay (.update annotating)).2 = .ok (.changed 1)) ∧
    draining.Ready leapDay plant adjustedTanks none adjustedTanks.rows ∧
    (plant.execute leapDay (.delete draining)).2 = .ok (.changed 3) := by
  have filed : plant.tables.get? "tank" = some adjustedTanks := by decide +kernel
  have applied := plant_reachable.ready_applied leapDay
  have note : (Value.text "half").Fits .text := rfl
  have ready : annotating.Ready leapDay plant adjustedTanks
      ⟨[(1, .literal (.text "half"))], annotating.condition⟩
      [(1, [.float ⟨0x4004000000000000⟩, .null])] :=
    ⟨filed, rfl, by decide +kernel, makes_note note _⟩
  have ready' : draining.Ready leapDay plant adjustedTanks none adjustedTanks.rows :=
    ⟨filed, rfl, rfl⟩
  exact ⟨plant_reachable, ⟨_, ready, applied.1 _ _ _ _ ready⟩, ready', applied.2 _ _ _ _ ready'⟩

/-- A note cannot be removed from a tank whose level is NaN, although nothing is
assigned to the level. -/
theorem plant_stuck : plant.Reachable ∧
    (∃ bound, blanking.Ready leapDay plant adjustedTanks bound adjustedTanks.rows) ∧
    adjustedTanks.schema.keyName ∉ blanking.assignments.map Prod.fst ∧
    plant.execute leapDay (.update blanking) =
      (plant, .error (.constraint (.primaryKeyUpdate "level"))) := by
  have filed : plant.tables.get? "tank" = some adjustedTanks := by decide +kernel
  have ready : blanking.Ready leapDay plant adjustedTanks ⟨[(1, .literal .null)], none⟩
      adjustedTanks.rows :=
    ⟨filed, rfl, rfl, makes_note (Value.fits_null _) _⟩
  exact ⟨plant_reachable, ⟨_, ready⟩, by decide +kernel, by decide +kernel⟩

end Database

end Relational
