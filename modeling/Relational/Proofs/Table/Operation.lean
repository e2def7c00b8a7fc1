import Relational.Proofs.Table.Sound
import Relational.Table.ChangeLog

/-!
# Operations on sound tables

What each operation on a sound table does when it succeeds: which identity it
concerns, what stands there afterwards, and that the table stays sound.  An
operation that fails yields no table, so there is nothing to say of it.
-/

namespace Relational

namespace Table

variable {table changed : Table} {id : RowId} {row before : Row}

/-! ### Checking a primary key -/

theorem cell_eq_ok_iff {position : Nat} {value : Value} :
    Row.cell row position = .ok value ↔ row[position]? = some value := by
  unfold Row.cell
  split <;> simp_all

/-- The check passes a row exactly if its primary key is present and is not the
key of any row. -/
theorem Sound.checkKey_eq_ok_iff (sound : table.Sound)
    (wide : row.length = table.schema.columns.length) :
    table.checkKey row = .ok () ↔ (row.key? table.schema.keyPosition).isSome ∧
      ∀ other kept, viewOf table.rows other = some kept →
        kept.key? table.schema.keyPosition ≠ row.key? table.schema.keyPosition := by
  have inside : table.schema.keyPosition < row.length := wide ▸ sound.valid.keyPosition_lt
  obtain ⟨value, cell⟩ : ∃ value, row[table.schema.keyPosition]? = some value :=
    ⟨_, List.getElem?_eq_getElem inside⟩
  -- The primary key always has an index, so the check never passes for want of one.
  obtain ⟨index, member, indexed, position⟩ := sound.keyIndex
  have keyed : row.key? table.schema.keyPosition = Key.ofValue? value := by rw [Row.key?, cell]; rfl
  have checked : table.checkKey row =
      if value.isNull then .error (.constraint (.nullPrimaryKey table.schema.keyName))
      else if index.contains value then
        .error (.duplicateKey table.schema.name table.schema.keyName value)
      else .ok () := by
    simp only [checkKey, Row.cell, cell, indexed]
    rfl
  rw [checked, keyed, Key.isSome_ofValue?]
  cases missing : value.isNull with
  | true => simp
  | false =>
      have contained := Index.contains_iff (sound.reflects index member) value
      rw [position] at contained
      by_cases present : index.contains value = true
      · obtain ⟨key, other, filed, found⟩ := contained.mp present
        obtain ⟨kept, stands, same⟩ := Option.bind_eq_some_iff.mp found
        simp only [present, Bool.false_eq_true, ↓reduceIte, reduceCtorEq, Bool.not_false, true_and,
          false_iff]
        intro unique
        exact unique other kept stands (same.trans filed.symm)
      · simp only [present, Bool.false_eq_true, ↓reduceIte, Bool.not_false, true_and, true_iff]
        intro other kept stands same
        cases filed : Key.ofValue? value with
        | none => simp [Key.ofValue?_eq_none_iff.mp filed] at missing
        | some key =>
            exact present (contained.mpr ⟨key, other, filed,
              Option.bind_eq_some_iff.mpr ⟨kept, stands, same.trans filed⟩⟩)

/-- A row that passes the check may stand under any identity. -/
theorem Sound.admits_of_checkKey (sound : table.Sound)
    (wide : row.length = table.schema.columns.length) (passes : table.checkKey row = .ok ())
    (id : RowId) : table.Admits id row :=
  have checked := (sound.checkKey_eq_ok_iff wide).mp passes
  ⟨wide, checked.1, fun other _ kept stands => checked.2 other kept stands⟩

/-! ### Adding a row -/

/-- Placing a row under an identity without a row. -/
theorem Sound.place_rewrites (sound : table.Sound) (fresh : viewOf table.rows id = none)
    (row : Row) (nextId : RowId) :
    table.Rewrites id (some row) { table.place id row with nextId := nextId } where
  schema := rfl
  ascending := insertOrdered_ascending id row table.rows sound.ascending
  view := by
    funext other
    rw [Function.update_apply]
    exact lookup_insertOrdered id other row table.rows
  indexes := by
    refine ⟨fun index => index.insertRow id row, rfl, fun index member =>
      ⟨Index.insertRow_sameColumn id row, ?_⟩⟩
    have placed : viewOf (table.place id row).rows =
        Function.update (viewOf table.rows) id (some row) := by
      funext other
      rw [Function.update_apply]
      exact lookup_insertOrdered id other row table.rows
    rw [placed]
    exact (sound.reflects index member).insertRow fresh row

/-- An inserted row passes the check and stands under the next identity. -/
theorem insert_eq_ok (inserted : table.insert row = .ok (changed, id)) :
    id = table.nextId ∧ row.length = table.schema.columns.length ∧ table.checkKey row = .ok () ∧
      changed = { table.place id row with nextId := table.nextId + 1 } := by
  unfold insert at inserted
  split at inserted
  · cases inserted
  · rename_i wide
    obtain ⟨_, passes, result⟩ := bind_eq_ok.mp inserted
    cases result
    exact ⟨rfl, not_not.mp wide, passes, rfl⟩

/-- An insertion keeps a table sound. -/
theorem Sound.insert (sound : table.Sound) (inserted : table.insert row = .ok (changed, id)) :
    changed.Sound := by
  obtain ⟨rfl, wide, passes, rfl⟩ := insert_eq_ok inserted
  refine sound.of_rewrites (sound.place_rewrites sound.viewOf_nextId row _) (Nat.le_succ _) ?_
  rintro _ ⟨⟩
  exact ⟨sound.admits_of_checkKey wide passes _, Nat.lt_succ_self _⟩

/-- A restored row passes the check and stands under its identity, which had no
row. -/
theorem restore_eq_ok_iff : table.restore id row = .ok changed ↔
    viewOf table.rows id = none ∧ table.checkKey row = .ok () ∧
      changed = { table.place id row with nextId := max table.nextId (id + 1) } := by
  unfold restore
  rw [row?_eq_viewOf]
  split
  · rename_i found
    simp [found]
  · rename_i fresh
    rw [bind_eq_ok]
    constructor
    · rintro ⟨_, passes, result⟩
      exact ⟨fresh, passes, (pure_eq_ok.mp result).symm⟩
    · rintro ⟨-, passes, rfl⟩
      exact ⟨(), passes, rfl⟩

/-- Restoring a row keeps a table sound. -/
theorem Sound.restore (sound : table.Sound) (wide : row.length = table.schema.columns.length)
    (restored : table.restore id row = .ok changed) : changed.Sound := by
  obtain ⟨fresh, passes, rfl⟩ := restore_eq_ok_iff.mp restored
  refine sound.of_rewrites (sound.place_rewrites fresh row _) (le_max_left _ _) ?_
  rintro _ ⟨⟩
  exact ⟨sound.admits_of_checkKey wide passes _, Nat.lt_of_succ_le (le_max_right _ _)⟩

/-! ### Replacing and removing a row -/

theorem existing_eq_ok_iff : table.existing id = .ok row ↔ viewOf table.rows id = some row := by
  rw [← row?_eq_viewOf, existing]
  split <;> simp_all

/-- An update replaces a row by one with an equal primary key. -/
theorem update_eq_ok_iff : table.update id row = .ok (changed, before) ↔
    viewOf table.rows id = some before ∧
      (∃ oldKey newKey, before[table.schema.keyPosition]? = some oldKey ∧
        row[table.schema.keyPosition]? = some newKey ∧ oldKey.same newKey = true) ∧
      changed = { table with
        rows := table.rows.map fun entry => if entry.1 = id then (id, row) else entry
        indexes := table.indexes.map fun index => index.replaceRow id before row } := by
  unfold update
  simp only [bind_eq_ok, existing_eq_ok_iff, cell_eq_ok_iff]
  constructor
  · rintro ⟨old, stands, oldKey, old_cell, newKey, new_cell, result⟩
    split at result
    · cases result
    · rename_i same
      obtain ⟨rfl, rfl⟩ := Prod.mk.inj (Except.ok.inj result)
      exact ⟨stands, ⟨oldKey, newKey, old_cell, new_cell, by simpa using same⟩, rfl⟩
  · rintro ⟨stands, ⟨oldKey, newKey, old_cell, new_cell, same⟩, rfl⟩
    refine ⟨before, stands, oldKey, old_cell, newKey, new_cell, ?_⟩
    simp only [same, Bool.not_true, Bool.false_eq_true, ↓reduceIte]
    rfl

/-- An update replaces one row, and the indexes follow. -/
theorem Sound.update_rewrites (sound : table.Sound)
    (wide : row.length = table.schema.columns.length)
    (updated : table.update id row = .ok (changed, before)) :
    table.Rewrites id (some row) changed := by
  obtain ⟨stands, -, rfl⟩ := update_eq_ok_iff.mp updated
  have view : viewOf (table.rows.map fun entry => if entry.1 = id then (id, row) else entry) =
      Function.update (viewOf table.rows) id (some row) := by
    funext other
    rw [viewOf, lookup_map_at, Function.update_apply]
    by_cases here : other = id
    · subst here
      have found : table.rows.lookup other = some before := stands
      simp [found]
    · simp [here, viewOf]
  refine ⟨rfl, ?_, view, fun index => index.replaceRow id before row, rfl, fun index member => ?_⟩
  · refine sound.ascending.map _ fun entry => ?_
    split
    · rename_i here
      exact here.symm
    · rfl
  · have inside := sound.position_lt member
    have replaced := (sound.reflects index member).replaceRow stands
      (inside.trans_eq (sound.width _ (sound.mem_of_viewOf stands)).symm) (inside.trans_eq wide.symm)
    rw [view]
    exact replaced.symm

/-- An update keeps a table sound. -/
theorem Sound.update (sound : table.Sound) (wide : row.length = table.schema.columns.length)
    (updated : table.update id row = .ok (changed, before)) : changed.Sound := by
  have rewrites := sound.update_rewrites wide updated
  obtain ⟨stands, ⟨oldKey, newKey, old_cell, new_cell, same⟩, rfl⟩ := update_eq_ok_iff.mp updated
  have member := sound.mem_of_viewOf stands
  have kept : before.key? table.schema.keyPosition = row.key? table.schema.keyPosition := by
    rw [Row.key?, Row.key?, old_cell, new_cell]
    exact Value.key_eq_of_same same
  refine sound.of_rewrites rewrites le_rfl ?_
  rintro _ ⟨⟩
  refine ⟨⟨wide, kept ▸ sound.keyed _ member, ?_⟩, sound.below _ member⟩
  intro other elsewhere found stands' shared
  exact elsewhere (sound.keys_differ (other, found) (sound.mem_of_viewOf stands') (id, before)
    member (shared.trans kept.symm))

/-- A deletion removes a row that was there. -/
theorem delete_eq_ok_iff : table.delete id = .ok (changed, row) ↔
    viewOf table.rows id = some row ∧
      changed = { table with
        rows := table.rows.filter fun entry => entry.1 ≠ id
        indexes := table.indexes.map fun index => index.removeRow id row } := by
  unfold delete
  simp only [bind_eq_ok, existing_eq_ok_iff]
  constructor
  · rintro ⟨old, stands, result⟩
    obtain ⟨rfl, rfl⟩ := Prod.mk.inj (Except.ok.inj result)
    exact ⟨stands, rfl⟩
  · rintro ⟨stands, rfl⟩
    exact ⟨row, stands, rfl⟩

/-- A deletion removes one row, and the indexes follow. -/
theorem Sound.delete_rewrites (sound : table.Sound)
    (deleted : table.delete id = .ok (changed, row)) : table.Rewrites id none changed := by
  obtain ⟨stands, rfl⟩ := delete_eq_ok_iff.mp deleted
  have view : viewOf (table.rows.filter fun entry => entry.1 ≠ id) =
      Function.update (viewOf table.rows) id none := by
    funext other
    rw [viewOf, lookup_filter_ne, Function.update_apply]
    rfl
  refine ⟨rfl, sound.ascending.filter _, view, fun index => index.removeRow id row, rfl,
    fun index member => ⟨Index.removeRow_sameColumn id row, ?_⟩⟩
  rw [view]
  exact (sound.reflects index member).removeRow stands

/-- A deletion keeps a table sound. -/
theorem Sound.delete (sound : table.Sound) (deleted : table.delete id = .ok (changed, row)) :
    changed.Sound := by
  have rewrites := sound.delete_rewrites deleted
  obtain ⟨-, rfl⟩ := delete_eq_ok_iff.mp deleted
  exact sound.of_rewrites rewrites le_rfl fun _ none => nomatch none

/-! ### Declaring an index -/

/-- A declared index has a new name and names a column; the rows stay what they
are. -/
theorem createIndex_eq_ok {declared : IndexDeclaration}
    (extended : table.createIndex declared = .ok changed) :
    table.schema.index? declared.name = none ∧
      (∃ position, table.schema.position? declared.column = some position ∧
        changed.indexes = match table.indexOn? declared.column with
          | some _ => table.indexes
          | none => table.indexes ++ [Index.build declared.column position table.rows]) ∧
      changed.schema = { table.schema with indexes := table.schema.indexes ++ [declared] } ∧
      changed.rows = table.rows ∧ changed.nextId = table.nextId := by
  unfold createIndex at extended
  split at extended
  · cases extended
  · rename_i fresh
    obtain ⟨position, found, result⟩ := bind_eq_ok.mp extended
    have located := Schema.position_eq_ok_iff.mp found
    cases indexed : table.indexOn? declared.column with
    | none =>
        simp only [indexed] at result
        cases result
        exact ⟨fresh, ⟨position, located, rfl⟩, rfl, rfl, rfl⟩
    | some index =>
        simp only [indexed] at result
        cases result
        exact ⟨fresh, ⟨position, located, rfl⟩, rfl, rfl, rfl⟩

/-- Creating an index keeps a table sound. -/
theorem Sound.createIndex {declared : IndexDeclaration} (sound : table.Sound)
    (extended : table.createIndex declared = .ok changed) : changed.Sound := by
  obtain ⟨fresh, ⟨position, found, indexes⟩, schema, rows, nextId⟩ := createIndex_eq_ok extended
  have onColumn : declared.column ∈ table.schema.columnNames :=
    not_not.mp fun absent => by simp [Schema.position?_eq_none_iff.mpr absent] at found
  have columns : changed.schema.columns = table.schema.columns := by rw [schema]
  have indexesValid : changed.schema.IndexesValid := by
    rw [schema]
    exact sound.indexesValid.append fresh onColumn
  cases indexed : table.indexOn? declared.column with
  | some index =>
      -- The column has an index already, so that only the declaration is new.
      rw [indexed] at indexes
      refine sound.of_sameRows columns rows nextId indexesValid ?_ ?_ ?_
      · rw [indexes]
        exact sound.indexes_differ
      · intro column
        rw [indexes, sound.indexed_iff, schema, List.map_append, List.map_singleton,
          List.mem_append, List.mem_singleton, ← or_assoc]
        refine ⟨Or.inl, ?_⟩
        rintro (old | rfl)
        · exact old
        · exact (sound.indexed_iff _).mp (List.mem_map.mpr ⟨index, Sound.mem_of_indexOn? indexed⟩)
      · rw [indexes, schema, rows]
        exact fun index member => ⟨sound.positions index member, sound.reflects index member⟩
  | none =>
      rw [indexed] at indexes
      have built := Index.build_reflects declared.column position sound.ascending
      have absent : declared.column ∉ table.indexes.map Index.column := by
        intro member
        obtain ⟨index, member, named⟩ := List.mem_map.mp member
        exact absurd (decide_eq_true named) (List.find?_eq_none.mp indexed index member)
      refine sound.of_sameRows columns rows nextId indexesValid ?_ ?_ ?_
      · rw [indexes, List.map_append, List.map_singleton, built.2.column]
        exact sound.indexes_differ.append (List.nodup_singleton _)
          (List.disjoint_singleton.mpr absent)
      · intro column
        rw [indexes, schema, List.map_append, List.map_singleton, List.mem_append,
          List.mem_singleton, List.map_append, List.map_singleton, List.mem_append,
          List.mem_singleton, ← or_assoc, built.2.column]
        exact or_congr_left (sound.indexed_iff column)
      · rw [indexes, schema, rows]
        intro index member
        rcases List.mem_append.mp member with old | new
        · exact ⟨sound.positions index old, sound.reflects index old⟩
        · rw [List.mem_singleton.mp new, built.2.column, built.2.position]
          exact ⟨found, built.1⟩

end Table

end Relational
