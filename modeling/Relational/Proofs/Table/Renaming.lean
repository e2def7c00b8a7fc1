import Relational.Database.Execution
import Relational.Proofs.Table.Rollback

/-!
# Rows under other identities

Two tables are equivalent if they show the same rows in the same order, whatever
the identities under which the rows stand.  Their identities then correspond in
order, and everything that indexes find or count corresponds with them.  Each
operation leads from equivalent tables to equivalent ones, or fails on both with
the same error, provided that it is asked of identities that correspond.
-/

namespace Relational

/-- An index finds a value if a row has its key. -/
theorem Index.Reflects.contains_eq {index : Index} {rows : List (RowId × Row)}
    (reflects : index.Reflects (viewOf rows)) (ascending : Ascending rows) (value : Value) :
    index.contains value = rows.any fun entry => entry.2.isUnder index.position value := by
  rw [Bool.eq_iff_iff, contains_iff reflects, List.any_eq_true]
  unfold Row.isUnder
  constructor
  · rintro ⟨key, id, filed, found⟩
    obtain ⟨row, stands, keyed⟩ := Option.bind_eq_some_iff.mp found
    exact ⟨(id, row), ascending.lookup_eq_some_iff.mp stands, by simp [filed, keyed]⟩
  · rintro ⟨⟨id, row⟩, member, under⟩
    cases filed : Key.ofValue? value with
    | none =>
        rw [filed] at under
        cases under
    | some key =>
        rw [filed, Option.any_some, decide_eq_true_eq] at under
        exact ⟨key, id, rfl, Option.bind_eq_some_iff.mpr
          ⟨row, ascending.lookup_eq_some_iff.mpr member, under⟩⟩

namespace Table

/-- A row under the identity that replaces its own. -/
def relabel (rename : RowId → RowId) (entry : RowId × Row) : RowId × Row :=
  (rename entry.1, entry.2)

/-- Sound tables with one schema that show the same rows in the same order. -/
structure Equivalent (first second : Table) : Prop where
  sound : first.Sound
  sound' : second.Sound
  schema : second.schema = first.schema
  contents : second.rows.map Prod.snd = first.rows.map Prod.snd

/-- Sound tables with one schema, the rows of the second one being those of the
first one under replaced identities. -/
structure Renamed (rename : RowId → RowId) (first second : Table) : Prop where
  sound : first.Sound
  sound' : second.Sound
  schema : second.schema = first.schema
  rows : second.rows = first.rows.map (relabel rename)

/-- The identities of the rows. -/
def ids (table : Table) : List RowId :=
  table.rows.map Prod.fst

variable {first second : Table} {rename : RowId → RowId} {id other : RowId} {row : Row}

/-- Lists of the same rows differ by their identities. -/
theorem exists_relabel {entries others : List (RowId × Row)}
    (nodup : (entries.map Prod.fst).Nodup) (same : others.map Prod.snd = entries.map Prod.snd) :
    ∃ rename, others = entries.map (relabel rename) := by
  induction entries generalizing others with
  | nil => exact ⟨id, List.map_eq_nil_iff.mp same⟩
  | cons entry rest ih =>
      obtain ⟨⟨id, row⟩, following, rfl, rfl, others⟩ := List.map_eq_cons_iff.mp same
      obtain ⟨absent, nodup⟩ := List.nodup_cons.mp nodup
      obtain ⟨rename, rfl⟩ := ih nodup others
      refine ⟨Function.update rename entry.1 id, ?_⟩
      rw [List.map_cons]
      congr 1
      · simp [relabel]
      · refine List.map_congr_left fun later member => ?_
        have elsewhere : later.1 ≠ entry.1 := fun here =>
          absent (here ▸ List.mem_map_of_mem member)
        simp [relabel, Function.update_of_ne elsewhere]

/-- Tables that show the same rows differ by a replacement of identities. -/
theorem Equivalent.exists_renamed (equivalent : first.Equivalent second) :
    ∃ rename, Renamed rename first second := by
  obtain ⟨rename, rows⟩ :=
    exists_relabel equivalent.sound.ascending.keys_nodup equivalent.contents
  exact ⟨rename, equivalent.sound, equivalent.sound', equivalent.schema, rows⟩

/-- Tables with the contents of equivalent ones are equivalent. -/
theorem Equivalent.of_sameContent {table table' : Table} (equivalent : first.Equivalent second)
    (sound : table.Sound) (same : SameContent table first) (sound' : table'.Sound)
    (same' : SameContent table' second) : table.Equivalent table' where
  sound := sound
  sound' := sound'
  schema := same'.schema.trans (equivalent.schema.trans same.schema.symm)
  contents := by rw [same'.rows, same.rows, equivalent.contents]

theorem Equivalent.refl {table : Table} (sound : table.Sound) : table.Equivalent table :=
  ⟨sound, sound, rfl, rfl⟩

/-- To be equivalent is transitive. -/
theorem Equivalent.trans {third : Table} (same : first.Equivalent second)
    (same' : second.Equivalent third) : first.Equivalent third where
  sound := same.sound
  sound' := same'.sound'
  schema := same'.schema.trans same.schema
  contents := same'.contents.trans same.contents

/-- Whether a row can be replaced depends on the row that stands in its place. -/
theorem update_map_snd {table : Table} {before : Row}
    (stands : viewOf table.rows id = some before) :
    (table.update id row).map Prod.snd = (do
      let oldKey ← Row.cell before table.schema.keyPosition
      let newKey ← Row.cell row table.schema.keyPosition
      if !oldKey.same newKey then
        .error (.constraint (.primaryKeyUpdate table.schema.keyName))
      else .ok before) := by
  rw [Table.update, existing_eq_ok_iff.mpr stands]
  cases cell : Row.cell before table.schema.keyPosition with
  | error _ => simp [cell, bind, Except.bind, Except.map]
  | ok oldKey =>
      cases cell' : Row.cell row table.schema.keyPosition with
      | error _ => simp [cell, bind, Except.bind, Except.map]
      | ok newKey =>
          simp only [cell, bind, Except.bind]
          split <;> rfl

/-- An insertion succeeds if the row is as wide as the table and its key is free. -/
theorem insert_map_unit {table : Table} : (table.insert row).map (fun _ => ()) =
    if row.length ≠ table.schema.columns.length then
      .error (.invalidQuery (.rowLength row.length table.schema.name table.schema.columns.length))
    else table.checkKey row := by
  unfold Table.insert
  split
  · rfl
  · cases table.checkKey row <;> rfl

/-- An index is created if its name is free and its column exists. -/
theorem createIndex_map_unit {table : Table} {declared : IndexDeclaration} :
    (table.createIndex declared).map (fun _ => ()) =
      match table.schema.index? declared.name with
      | some _ => .error (.invalidQuery (.indexExists declared.name table.schema.name))
      | none => (table.schema.position declared.column).map fun _ => () := by
  unfold Table.createIndex
  cases table.schema.index? declared.name with
  | some _ => rfl
  | none =>
      cases table.schema.position declared.column with
      | error _ => rfl
      | ok position => cases table.indexOn? declared.column <;> rfl

namespace Renamed

/-- Tables that differ by identities are equivalent. -/
theorem equivalent (renamed : Renamed rename first second) : first.Equivalent second where
  sound := renamed.sound
  sound' := renamed.sound'
  schema := renamed.schema
  contents := by rw [renamed.rows, List.map_map]; rfl

theorem ids_eq (renamed : Renamed rename first second) : second.ids = first.ids.map rename := by
  rw [ids, ids, renamed.rows, List.map_map, List.map_map]
  rfl

/-- Different identities are replaced by different ones. -/
theorem rename_eq_iff (renamed : Renamed rename first second) (member : id ∈ first.ids)
    (member' : other ∈ first.ids) : rename id = rename other ↔ id = other := by
  have nodup : (first.ids.map rename).Nodup :=
    renamed.ids_eq ▸ renamed.sound'.ascending.keys_nodup
  exact ⟨List.inj_on_of_nodup_map nodup member member', congrArg rename⟩

/-- A row stands under the identity that replaces its own. -/
theorem viewOf_rename (renamed : Renamed rename first second)
    (stands : viewOf first.rows id = some row) : viewOf second.rows (rename id) = some row := by
  refine renamed.sound'.viewOf_of_mem ?_
  rw [renamed.rows]
  exact List.mem_map.mpr ⟨(id, row), renamed.sound.mem_of_viewOf stands, rfl⟩

/-- An identity and the one that replaces it stand for the same row. -/
theorem exists_viewOf (renamed : Renamed rename first second) (member : id ∈ first.ids) :
    ∃ row, viewOf first.rows id = some row ∧ viewOf second.rows (rename id) = some row := by
  obtain ⟨⟨_, row⟩, listed, rfl⟩ := List.mem_map.mp member
  have stands := renamed.sound.viewOf_of_mem listed
  exact ⟨row, stands, renamed.viewOf_rename stands⟩

/-! ### Answers of indexes -/

/-- Tables that differ by identities have the same statistics. -/
theorem statistics?_eq (renamed : Renamed rename first second) (column : String) :
    second.statistics? column = first.statistics? column := by
  unfold statistics?
  rcases renamed.sound.indexOn?_paired renamed.sound' renamed.schema.symm column with
    ⟨none, none'⟩ | ⟨index, member, index', member', found, found', place⟩
  · rw [none, none']
  · rw [found, found', Option.map_some, Option.map_some,
      (renamed.sound.reflects index member).statistics_eq renamed.sound.ascending,
      (renamed.sound'.reflects index' member').statistics_eq renamed.sound'.ascending,
      renamed.rows, place, List.filterMap_map, List.countP_map]
    rfl

/-- The indexes of tables that differ by identities know the same values. -/
theorem contains_eq (renamed : Renamed rename first second) (column : String) (value : Value) :
    ((second.indexOn? column).any fun index => index.contains value) =
      (first.indexOn? column).any fun index => index.contains value := by
  rcases renamed.sound.indexOn?_paired renamed.sound' renamed.schema.symm column with
    ⟨none, none'⟩ | ⟨index, member, index', member', found, found', place⟩
  · rw [none, none']
  · rw [found, found', Option.any_some, Option.any_some,
      (renamed.sound.reflects index member).contains_eq renamed.sound.ascending,
      (renamed.sound'.reflects index' member').contains_eq renamed.sound'.ascending,
      renamed.rows, place, List.any_map]
    rfl

/-- A key is free in both of two tables that differ by identities, or taken in both. -/
theorem checkKey_eq (renamed : Renamed rename first second) (row : Row) :
    second.checkKey row = first.checkKey row := by
  simp only [checkKey, renamed.schema, renamed.contains_eq]

/-! ### Replacing and removing a row -/

/-- Replacing a row leads to tables that still correspond, unless it fails on
both. -/
theorem update (renamed : Renamed rename first second) (member : id ∈ first.ids)
    (wide : row.length = first.schema.columns.length) :
    Alike (fun result result' => result'.2 = result.2 ∧ Renamed rename result.1 result'.1 ∧
        result.1.schema = first.schema ∧ result.1.ids = first.ids)
      (first.update id row) (second.update (rename id) row) := by
  obtain ⟨before, stands, stands'⟩ := renamed.exists_viewOf member
  refine Alike.of_map_eq Prod.snd Prod.snd ?_ ?_
  · rw [update_map_snd stands, update_map_snd stands', renamed.schema]
  · rintro ⟨changed, old⟩ ⟨changed', old'⟩ updated updated' same
    have wide' : row.length = second.schema.columns.length := by rw [wide, renamed.schema]
    have sound := renamed.sound.update wide updated
    have sound' := renamed.sound'.update wide' updated'
    obtain ⟨-, -, rfl⟩ := update_eq_ok_iff.mp updated
    obtain ⟨-, -, rfl⟩ := update_eq_ok_iff.mp updated'
    refine ⟨same.symm, ⟨sound, sound', renamed.schema, ?_⟩, rfl, ?_⟩
    · dsimp only
      rw [renamed.rows, List.map_map, List.map_map]
      refine List.map_congr_left fun entry listed => ?_
      have here := renamed.rename_eq_iff (List.mem_map_of_mem listed) member
      by_cases same : entry.1 = id <;> simp [relabel, here, same]
    · rw [ids, List.map_map]
      refine List.map_congr_left fun entry _ => ?_
      by_cases same : entry.1 = id <;> simp [same]

/-- A row of an identity that is there can be removed from both tables. -/
theorem delete (renamed : Renamed rename first second) (member : id ∈ first.ids) :
    ∃ remaining remaining' row, first.delete id = .ok (remaining, row) ∧
      second.delete (rename id) = .ok (remaining', row) ∧
      Renamed rename remaining remaining' ∧
      remaining.ids = first.ids.filter fun other => other ≠ id := by
  obtain ⟨row, stands, stands'⟩ := renamed.exists_viewOf member
  have deleted := delete_eq_ok_iff.mpr ⟨stands, rfl⟩
  have deleted' := delete_eq_ok_iff.mpr ⟨stands', rfl⟩
  refine ⟨_, _, row, deleted, deleted', ⟨renamed.sound.delete deleted,
    renamed.sound'.delete deleted', renamed.schema, ?_⟩, ?_⟩
  · dsimp only
    rw [renamed.rows, List.filter_map]
    refine congrArg _ (List.filter_congr fun entry listed => ?_)
    have here := renamed.rename_eq_iff (List.mem_map_of_mem listed) member
    simp [relabel, here]
  · rw [ids, ids, List.filter_map]
    rfl

end Renamed

/-! ### Adding rows and indexes -/

/-- Equivalent tables are equivalent after an insertion, or refuse it alike. -/
theorem Equivalent.insert (equivalent : first.Equivalent second) (row : Row) :
    Alike (fun result result' => result.1.Equivalent result'.1)
      (first.insert row) (second.insert row) := by
  obtain ⟨rename, renamed⟩ := equivalent.exists_renamed
  refine Alike.of_map_eq (fun _ => ()) (fun _ => ()) ?_ ?_
  · rw [insert_map_unit, insert_map_unit, renamed.schema, renamed.checkKey_eq]
  · rintro ⟨changed, id⟩ ⟨changed', id'⟩ inserted inserted' -
    have sound := equivalent.sound.insert inserted
    have sound' := equivalent.sound'.insert inserted'
    obtain ⟨rfl, -, -, rfl⟩ := insert_eq_ok inserted
    obtain ⟨rfl, -, -, rfl⟩ := insert_eq_ok inserted'
    refine ⟨sound, sound', equivalent.schema, ?_⟩
    dsimp only [place]
    rw [insertOrdered_of_below equivalent.sound.below,
      insertOrdered_of_below equivalent.sound'.below, List.map_append, List.map_append,
      equivalent.contents]
    rfl

/-- Equivalent tables are equivalent with one more index, or refuse it alike. -/
theorem Equivalent.createIndex (equivalent : first.Equivalent second)
    (declared : IndexDeclaration) :
    Alike Equivalent (first.createIndex declared) (second.createIndex declared) := by
  refine Alike.of_map_eq (fun _ => ()) (fun _ => ()) ?_ ?_
  · rw [createIndex_map_unit, createIndex_map_unit, equivalent.schema]
  · rintro changed changed' extended extended' -
    obtain ⟨-, -, schema, rows, -⟩ := createIndex_eq_ok extended
    obtain ⟨-, -, schema', rows', -⟩ := createIndex_eq_ok extended'
    refine ⟨equivalent.sound.createIndex extended, equivalent.sound'.createIndex extended', ?_, ?_⟩
    · rw [schema', schema, equivalent.schema]
    · rw [rows', rows, equivalent.contents]

/-! ### Series of changes -/

variable {start start' : Table} {log log' : ChangeLog}

/-- Failed series of changes of equivalent tables lead back to equivalent ones. -/
theorem Equivalent.rollback (equivalent : start.Equivalent start')
    (records : ChangeLog.Records start log first)
    (records' : ChangeLog.Records start' log' second) :
    (ChangeLog.rollback first log).table.Equivalent (ChangeLog.rollback second log').table := by
  obtain ⟨restored, replayed, sound, same⟩ := records.rollback equivalent.sound
    (records.sound equivalent.sound) (SameContent.refl first)
  obtain ⟨restored', replayed', sound', same'⟩ := records'.rollback equivalent.sound'
    (records'.sound equivalent.sound') (SameContent.refl second)
  -- The logs name identities, but each leads back to the start of its own series.
  rw [replayed, replayed']
  exact equivalent.of_sameContent sound same sound' same'

/-- Series of changes that end alike, in equivalent tables. -/
def EndAlike (applied applied' : Table × Except Error Nat) : Prop :=
  applied'.2 = applied.2 ∧ applied.1.Equivalent applied'.1

/-- The same new rows, put in place of rows that correspond. -/
theorem Renamed.applyUpdates (equivalent : start.Equivalent start')
    (renamed : Renamed rename first second) (records : ChangeLog.Records start log first)
    (records' : ChangeLog.Records start' log' second) (lengths : log'.length = log.length)
    {changes : List (RowId × Row)} (known : ∀ change ∈ changes, change.1 ∈ first.ids)
    (wide : ∀ change ∈ changes, change.2.length = first.schema.columns.length) :
    EndAlike (first.applyUpdates log changes)
      (second.applyUpdates log' (changes.map (relabel rename))) := by
  induction changes generalizing first second log log' with
  | nil => exact ⟨congrArg Except.ok lengths, renamed.equivalent⟩
  | cons change rest ih =>
      obtain ⟨id, row⟩ := change
      obtain ⟨member, known⟩ := List.forall_mem_cons.mp known
      obtain ⟨fits, wide⟩ := List.forall_mem_cons.mp wide
      rw [List.map_cons, relabel, Table.applyUpdates, Table.applyUpdates]
      rcases (renamed.update member fits).ok_or_error with
        ⟨⟨changed, before⟩, ⟨changed', before'⟩, updated, updated', same, renamed', schema, ids⟩ |
          ⟨error, failed, failed'⟩
      · rw [updated, updated']
        -- The identities stay, so that the other changes are of rows that are still there.
        have fits' : row.length = second.schema.columns.length := by rw [fits, renamed.schema]
        refine ih renamed' (records.updated fits updated) (records'.updated fits' updated')
          (congrArg (· + 1) lengths) ?_ ?_
        · exact fun other among => ids.symm ▸ known other among
        · exact fun other among => schema.symm ▸ wide other among
      · rw [failed, failed']
        exact ⟨rfl, equivalent.rollback records records'⟩

/-- The removal of rows that correspond. -/
theorem Renamed.applyDeletes (renamed : Renamed rename first second)
    (lengths : log'.length = log.length) {removed : List RowId}
    (known : ∀ id ∈ removed, id ∈ first.ids) (nodup : removed.Nodup) :
    EndAlike (first.applyDeletes log removed)
      (second.applyDeletes log' (removed.map rename)) := by
  induction removed generalizing first second log log' with
  | nil => exact ⟨congrArg Except.ok lengths, renamed.equivalent⟩
  | cons id rest ih =>
      obtain ⟨member, known⟩ := List.forall_mem_cons.mp known
      obtain ⟨once, nodup⟩ := List.nodup_cons.mp nodup
      obtain ⟨remaining, remaining', row, deleted, deleted', renamed', ids⟩ :=
        renamed.delete member
      rw [List.map_cons, Table.applyDeletes, Table.applyDeletes, deleted, deleted']
      -- No identity is removed twice: this is why a removal cannot fail half way.
      refine ih renamed' (congrArg (· + 1) lengths) (fun other among => ?_) nodup
      rw [ids, List.mem_filter]
      refine ⟨known other among, decide_eq_true fun same => ?_⟩
      exact once (same ▸ among)

end Table

end Relational
