import Relational.Proofs.Table.Operation

/-!
# Replaying a change log

Replaying the log of a series of changes backwards leads back to the table from
which the series started: to its rows under their identities, to its next
identity, and therefore to everything that its indexes answer.  The indexes
themselves may list their entries in another order, which no look-up shows.
-/

namespace Relational

namespace Table

/-- Tables with the same schema, rows and next identity. -/
structure SameContent (first second : Table) : Prop where
  schema : first.schema = second.schema
  rows : first.rows = second.rows
  nextId : first.nextId = second.nextId

/-- Tables with the same content whose indexes answer alike. -/
structure Indistinguishable (first second : Table) : Prop extends SameContent first second where
  lookup : ∀ column value, (first.indexOn? column).map (fun index => index.lookup value) =
    (second.indexOn? column).map fun index => index.lookup value
  statistics : ∀ column, first.statistics? column = second.statistics? column

variable {start table changed current : Table} {id : RowId} {row before : Row}

theorem SameContent.refl (table : Table) : SameContent table table :=
  ⟨rfl, rfl, rfl⟩

theorem Indistinguishable.refl (table : Table) : Indistinguishable table table :=
  ⟨SameContent.refl table, fun _ _ => rfl, fun _ => rfl⟩

/-- A sound table has an index exactly on the columns for which its schema asks
for one. -/
theorem Sound.isSome_indexOn?_iff (sound : table.Sound) (column : String) :
    (table.indexOn? column).isSome ↔ column = table.schema.keyName ∨
      column ∈ table.schema.indexes.map IndexDeclaration.column := by
  rw [← sound.indexed_iff, Option.isSome_iff_exists, List.mem_map]
  constructor
  · rintro ⟨index, found⟩
    exact ⟨index, mem_of_indexOn? found⟩
  · rintro ⟨index, member, rfl⟩
    exact ⟨index, sound.indexOn?_of_mem member⟩

/-- Sound tables with one schema have their indexes on the same columns, at the
same positions. -/
theorem Sound.indexOn?_paired {first second : Table} (sound : first.Sound) (sound' : second.Sound)
    (schema : first.schema = second.schema) (column : String) :
    (first.indexOn? column = none ∧ second.indexOn? column = none) ∨
      ∃ index ∈ first.indexes, ∃ index' ∈ second.indexes, first.indexOn? column = some index ∧
        second.indexOn? column = some index' ∧ index.position = index'.position := by
  have both : (first.indexOn? column).isSome ↔ (second.indexOn? column).isSome := by
    rw [sound.isSome_indexOn?_iff, sound'.isSome_indexOn?_iff, schema]
  cases found : first.indexOn? column with
  | none =>
      cases found' : second.indexOn? column with
      | none => exact Or.inl ⟨rfl, rfl⟩
      | some index => simp [found, found'] at both
  | some index =>
      cases found' : second.indexOn? column with
      | none => simp [found, found'] at both
      | some index' =>
          obtain ⟨member, named⟩ := mem_of_indexOn? found
          obtain ⟨member', named'⟩ := mem_of_indexOn? found'
          have stands := sound.positions index member
          have stands' := sound'.positions index' member'
          rw [named, schema] at stands
          rw [named'] at stands'
          exact Or.inr ⟨index, member, index', member', rfl, rfl,
            Option.some.inj (stands.symm.trans stands')⟩

/-- Sound tables with the same content have their indexes on the same columns, and
the indexes on a column answer alike. -/
theorem Sound.indexOn?_alike {first second : Table} (sound : first.Sound)
    (sound' : second.Sound) (same : SameContent first second) (column : String) :
    (first.indexOn? column = none ∧ second.indexOn? column = none) ∨
      ∃ index index', first.indexOn? column = some index ∧ second.indexOn? column = some index' ∧
        (∀ value, index.lookup value = index'.lookup value) ∧
        index.statistics = index'.statistics := by
  rcases sound.indexOn?_paired sound' same.schema column with
    none | ⟨index, member, index', member', found, found', place⟩
  · exact Or.inl none
  · refine Or.inr ⟨index, index', found, found', fun value => ?_, ?_⟩
    · rw [(sound.reflects index member).lookup_eq sound.ascending,
        (sound'.reflects index' member').lookup_eq sound'.ascending, same.rows, place]
    · rw [(sound.reflects index member).statistics_eq sound.ascending,
        (sound'.reflects index' member').statistics_eq sound'.ascending, same.rows, place]

/-- What the indexes of a sound table answer depends on its content only. -/
theorem Sound.indistinguishable {first second : Table} (sound : first.Sound)
    (sound' : second.Sound) (same : SameContent first second) :
    Indistinguishable first second := by
  refine ⟨same, fun column value => ?_, fun column => ?_⟩
  · rcases sound.indexOn?_alike sound' same column with
      ⟨none, none'⟩ | ⟨index, index', found, found', lookups, -⟩
    · rw [none, none']
    · rw [found, found']
      exact congrArg some (lookups value)
  · unfold statistics?
    rcases sound.indexOn?_alike sound' same column with
      ⟨none, none'⟩ | ⟨index, index', found, found', -, counts⟩
    · rw [none, none']
    · rw [found, found']
      exact congrArg some counts

/-! ### Reversing one change -/

/-- Changing an identity back to what it stood for gives the rows of before. -/
theorem Sound.rows_eq_of_view (sound : table.Sound) (ascending : Ascending current.rows)
    (id : RowId) (content : Option Row)
    (view : viewOf current.rows =
      Function.update (Function.update (viewOf table.rows) id content) id (viewOf table.rows id)) :
    current.rows = table.rows := by
  refine Ascending.ext ascending sound.ascending fun other => ?_
  change viewOf current.rows other = viewOf table.rows other
  rw [view, Function.update_idem, Function.update_eq_self]

/-- An update is reversed by an update with the row of before. -/
theorem Sound.reverse_update (sound : table.Sound)
    (wide : row.length = table.schema.columns.length)
    (updated : table.update id row = .ok (changed, before)) (sound' : current.Sound)
    (same : SameContent current changed) :
    ∃ reverted, current.update id before = .ok (reverted, row) ∧ reverted.Sound ∧
      SameContent reverted table := by
  have rewrites := sound.update_rewrites wide updated
  obtain ⟨stands, ⟨oldKey, newKey, old_cell, new_cell, equal⟩, result⟩ :=
    update_eq_ok_iff.mp updated
  have schema : current.schema = table.schema := same.schema.trans rewrites.schema
  have view : viewOf current.rows = Function.update (viewOf table.rows) id (some row) := by
    rw [same.rows, rewrites.view]
  have wide' : before.length = current.schema.columns.length := by
    rw [schema]
    exact sound.width _ (sound.mem_of_viewOf stands)
  have reversed := update_eq_ok_iff.mpr ⟨by rw [view, Function.update_self],
    ⟨newKey, oldKey, by rw [schema, new_cell], by rw [schema, old_cell], Value.same_symm equal⟩,
    rfl⟩
  refine ⟨_, reversed, sound'.update wide' reversed, schema, ?_, ?_⟩
  · have back := sound'.update_rewrites wide' reversed
    refine sound.rows_eq_of_view back.ascending id (some row) ?_
    rw [back.view, view, stands]
  · rw [result] at same
    exact same.nextId

/-- A deletion is reversed by restoring the row. -/
theorem Sound.reverse_delete (sound : table.Sound)
    (deleted : table.delete id = .ok (changed, row)) (sound' : current.Sound)
    (same : SameContent current changed) :
    ∃ reverted, current.restore id row = .ok reverted ∧ reverted.Sound ∧
      SameContent reverted table := by
  have rewrites := sound.delete_rewrites deleted
  obtain ⟨stands, result⟩ := delete_eq_ok_iff.mp deleted
  have member := sound.mem_of_viewOf stands
  have schema : current.schema = table.schema := same.schema.trans rewrites.schema
  have view : viewOf current.rows = Function.update (viewOf table.rows) id none := by
    rw [same.rows, rewrites.view]
  have fresh : viewOf current.rows id = none := by rw [view, Function.update_self]
  have wide : row.length = current.schema.columns.length := by
    rw [schema]
    exact sound.width _ member
  -- While the row was away no row took its key, since keys are those of the table before.
  have passes : current.checkKey row = .ok () := by
    rw [sound'.checkKey_eq_ok_iff wide, schema]
    refine ⟨sound.keyed _ member, fun other kept stands' shared => ?_⟩
    rw [view, Function.update_apply] at stands'
    split at stands'
    · cases stands'
    · rename_i elsewhere
      exact elsewhere (sound.keys_differ (other, kept) (sound.mem_of_viewOf stands') (id, row)
        member shared)
  have reversed : current.restore id row =
      .ok { current.place id row with nextId := max current.nextId (id + 1) } :=
    restore_eq_ok_iff.mpr ⟨fresh, passes, rfl⟩
  have nextId : current.nextId = table.nextId := by rw [same.nextId, result]
  refine ⟨_, reversed, sound'.restore wide reversed, schema, ?_, ?_⟩
  · have back := sound'.place_rewrites fresh row (max current.nextId (id + 1))
    refine sound.rows_eq_of_view back.ascending id none ?_
    rw [back.view, view, stands]
  · change max current.nextId (id + 1) = table.nextId
    rw [nextId]
    exact max_eq_left (sound.below _ member)

end Table

/-! ### Reversing a series of changes -/

namespace Change

/-- The row that reversing a change brings back. -/
def row : Change → Row
  | .updated _ before => before
  | .deleted _ row => row

/-- Reversing a change keeps a table sound, whatever the change. -/
theorem revert_sound {table reverted : Table} {change : Change} (sound : table.Sound)
    (wide : change.row.length = table.schema.columns.length)
    (reverts : change.revert table = .ok reverted) :
    reverted.Sound ∧ reverted.schema = table.schema := by
  cases change with
  | updated id before =>
      obtain ⟨⟨changed, row⟩, updated, result⟩ := bind_eq_ok.mp reverts
      cases result
      exact ⟨sound.update wide updated, (sound.update_rewrites wide updated).schema⟩
  | deleted id row =>
      obtain ⟨-, -, result⟩ := Table.restore_eq_ok_iff.mp reverts
      refine ⟨sound.restore wide reverts, ?_⟩
      rw [result]
      rfl

end Change

namespace ChangeLog

/-- A log that records, newest first, the changes that lead from one table to
another. -/
inductive Records (start : Table) : ChangeLog → Table → Prop
  | nothing : Records start [] start
  | updated {log : ChangeLog} {table changed : Table} {id : RowId} {row before : Row}
      (records : Records start log table) (wide : row.length = table.schema.columns.length)
      (updated : table.update id row = .ok (changed, before)) :
      Records start (.updated id before :: log) changed
  | deleted {log : ChangeLog} {table changed : Table} {id : RowId} {row : Row}
      (records : Records start log table) (deleted : table.delete id = .ok (changed, row)) :
      Records start (.deleted id row :: log) changed

variable {start table current : Table} {log : ChangeLog}

/-- What is recorded leaves a sound table. -/
theorem Records.sound (records : Records start log table) (sound : start.Sound) :
    table.Sound := by
  induction records with
  | nothing => exact sound
  | updated _ wide updated ih => exact ih.update wide updated
  | deleted _ deleted ih => exact ih.delete deleted

/-- What is recorded leaves the schema as it is. -/
theorem Records.schema (records : Records start log table) (sound : start.Sound) :
    table.schema = start.schema := by
  induction records with
  | nothing => rfl
  | updated records wide updated ih =>
      exact ((records.sound sound).update_rewrites wide updated).schema.trans ih
  | deleted records deleted ih =>
      exact ((records.sound sound).delete_rewrites deleted).schema.trans ih

/-- Replaying the log of a series of changes backwards succeeds and leads to
where the series started. -/
theorem Records.rollback (records : Records start log table) (sound : start.Sound)
    (sound' : current.Sound) (same : Table.SameContent current table) :
    ∃ restored, ChangeLog.rollback current log = ⟨restored, none⟩ ∧ restored.Sound ∧
      Table.SameContent restored start := by
  -- The replay starts from any table with the same content: each step reverses the newest change
  -- up to the order in which the indexes list their entries.
  induction records generalizing current with
  | nothing => exact ⟨current, rfl, sound', same⟩
  | updated records wide updated ih =>
      obtain ⟨reverted, reversed, sound'', same'⟩ :=
        (records.sound sound).reverse_update wide updated sound' same
      obtain ⟨restored, replayed, result⟩ := ih sound'' same'
      refine ⟨restored, ?_, result⟩
      rw [ChangeLog.rollback, Change.revert, reversed]
      exact replayed
  | deleted records deleted ih =>
      obtain ⟨reverted, reversed, sound'', same'⟩ :=
        (records.sound sound).reverse_delete deleted sound' same
      obtain ⟨restored, replayed, result⟩ := ih sound'' same'
      refine ⟨restored, ?_, result⟩
      rw [ChangeLog.rollback, Change.revert, reversed]
      exact replayed

/-- Replaying any log of rows as wide as the table keeps the table sound, also
where it stops half way. -/
theorem rollback_sound (log : ChangeLog) (sound : table.Sound)
    (wide : ∀ change ∈ log, change.row.length = table.schema.columns.length) :
    (ChangeLog.rollback table log).table.Sound ∧
      (ChangeLog.rollback table log).table.schema = table.schema := by
  induction log generalizing table with
  | nil => exact ⟨sound, rfl⟩
  | cons change older ih =>
      unfold ChangeLog.rollback
      split
      · rename_i reverted reverts
        obtain ⟨sound', schema⟩ := change.revert_sound sound (wide change List.mem_cons_self) reverts
        obtain ⟨sound'', schema'⟩ := ih sound' fun other member =>
          schema ▸ wide other (List.mem_cons_of_mem _ member)
        exact ⟨sound'', schema'.trans schema⟩
      · exact ⟨sound, rfl⟩

end ChangeLog

end Relational
