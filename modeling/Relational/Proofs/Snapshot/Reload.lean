import Relational.Proofs.Snapshot
import Relational.Proofs.Snapshot.Document

/-!
# Tables are built again

What comes back of a well-typed table is a table again if none of its primary
keys was lost: its rows are inserted in their order, so that they are numbered
from one on, and its indexes are declared anew.  A table without a float that is
not finite comes back as it was, up to the numbers of its rows, and its indexes
answer as before.
-/

namespace Relational

/-! ### Maps -/

namespace NameMap

variable {α β : Type}

/-- A changed map has the changed values under the same names. -/
@[simp] theorem get?_map (map : NameMap α) (change : α → β) (name : String) :
    (map.map change).get? name = (map.get? name).map change := by
  obtain ⟨entries⟩ := map
  change (entries.map fun entry => (entry.1, change entry.2)).lookup name =
    (entries.lookup name).map change
  induction entries with
  | nil => rfl
  | cons entry rest ih =>
      obtain ⟨other, value⟩ := entry
      rw [List.map_cons, lookup_cons_eq_ite, lookup_cons_eq_ite, ih]
      split <;> rfl

/-- An insertion adds nothing but the new entry. -/
theorem mem_insertEntry {name : String} {value : α} {entries : List (String × α)}
    {entry : String × α} (member : entry ∈ insertEntry name value entries) :
    entry = (name, value) ∨ entry ∈ entries := by
  induction entries with
  | nil => exact Or.inl (List.mem_singleton.mp member)
  | cons first rest ih =>
      rw [insertEntry] at member
      split at member
      · exact (List.mem_cons.mp member).imp_right (List.mem_cons_of_mem _)
      · split at member
        · exact List.mem_cons.mp member
        · rcases List.mem_cons.mp member with rfl | later
          · exact Or.inr List.mem_cons_self
          · exact (ih later).imp_right (List.mem_cons_of_mem _)

/-- A map that is built from entries has no others. -/
theorem mem_of_mem_ofList {entries : List (String × α)} {entry : String × α}
    (member : entry ∈ (ofList entries).entries) : entry ∈ entries := by
  have inserted : ∀ map : NameMap α,
      entry ∈ (entries.foldl (fun built entry => built.insert entry.1 entry.2) map).entries →
        entry ∈ entries ∨ entry ∈ map.entries := by
    clear member
    induction entries with
    | nil => exact fun map old => Or.inr old
    | cons first rest ih =>
        intro map member
        rcases ih (map.insert first.1 first.2) member with later | among
        · exact Or.inl (List.mem_cons_of_mem _ later)
        · rcases mem_insertEntry among with rfl | old
          · exact Or.inl List.mem_cons_self
          · exact Or.inr old
  rcases inserted NameMap.empty member with listed | none
  · exact listed
  · cases none

end NameMap

/-! ### Rows -/

namespace Value

/-- A float in a cell is finite. -/
def Finite : Value → Prop
  | .float x => x.isFinite = true
  | _ => True

instance : DecidablePred Finite
  | .float x => instDecidableEqBool x.isFinite true
  | .null | .integer _ | .boolean _ | .text _ => .isTrue trivial

/-- A cell that is not an infinite or undefined float is kept as it is. -/
theorem kept_of_finite {value : Value} (finite : value.Finite) : value.kept = value := by
  cases value with
  | float x => exact if_pos finite
  | null => rfl
  | integer n => rfl
  | boolean b => rfl
  | text s => rfl

/-- What is kept of a cell fits its column. -/
theorem kept_fits {type : ColumnType} {value : Value} (fits : value.Fits type) :
    value.kept.Fits type := by
  cases value with
  | float x =>
      rw [kept]
      split
      · exact fits
      · exact fits_null type
  | null => exact fits
  | integer n => exact fits
  | boolean b => exact fits
  | text s => exact fits

end Value

/-- What comes back of a row. -/
def Row.kept (row : Row) : Row :=
  row.map Value.kept

namespace StoredTable

/-- Cells that are found under the names of their columns make a row. -/
theorem cells_eq_ok {stored : NameMap Value} {columns : List Column} {row : Row}
    (found : List.Forall₂ (fun column value =>
      stored.get? column.name = some value ∧ value.Fits column.type) columns row) :
    cells stored columns = .ok row := by
  induction found with
  | nil => rfl
  | cons first _ ih =>
      rw [cells, first.1, Option.getD_some, Value.coerce_of_fits first.2, ih]
      rfl

variable {schema : Schema} {row : Row}

/-- A typed row comes back from the names of its columns. -/
theorem row_zip (valid : schema.Valid) (typed : Row.Typed schema.columns row) :
    StoredTable.row schema ((NameMap.ofList (schema.columnNames.zip row)).map Value.kept) =
      .ok row.kept := by
  have width : schema.columnNames.length = row.length :=
    Schema.columnNames_length.trans typed.width.symm
  have differ : ((schema.columnNames.zip row).map Prod.fst).Nodup := by
    rw [List.map_fst_zip width.le]
    exact valid.names_differ
  have found : List.Forall₂ (fun column value =>
      ((NameMap.ofList (schema.columnNames.zip row)).map Value.kept).get? column.name =
        some value ∧ value.Fits column.type) schema.columns row.kept := by
    refine List.forall₂_map_right_iff.mpr (List.forall₂_iff_zip.mpr ⟨typed.width.symm, ?_⟩)
    intro column value member
    obtain ⟨position, stands⟩ := List.mem_iff_getElem?.mp member
    obtain ⟨declared, cell⟩ := List.getElem?_zip_eq_some.mp stands
    have named : (column.name, value) ∈ schema.columnNames.zip row := by
      refine List.mem_of_getElem? (i := position) (List.getElem?_zip_eq_some.mpr ⟨?_, cell⟩)
      rw [Schema.columnNames, List.getElem?_map, declared]
      rfl
    refine ⟨?_, Value.kept_fits (typed.fits position column value declared cell)⟩
    rw [NameMap.get?_map, NameMap.get?_ofList differ, lookup_eq_some_of_mem differ named]
    rfl
  have known : ((NameMap.ofList (schema.columnNames.zip row)).map Value.kept).names.find?
      (fun name => decide (name ∉ schema.columnNames)) = none := by
    rw [List.find?_eq_none]
    intro name member unknown
    obtain ⟨entry, among, rfl⟩ := List.mem_map.mp member
    obtain ⟨cell, listed, rfl⟩ := List.mem_map.mp among
    exact of_decide_eq_true unknown (List.of_mem_zip (NameMap.mem_of_mem_ofList listed)).1
  rw [StoredTable.row, cells_eq_ok found]
  dsimp only [bind, Except.bind]
  rw [known]
  rfl

end StoredTable

namespace Table

/-- Rows under consecutive identities. -/
def numbered (first : RowId) (rows : List Row) : List (RowId × Row) :=
  (List.range' first rows.length).zip rows

/-- The first of numbered rows has the first identity, and the others follow it. -/
theorem numbered_cons (first : RowId) (row : Row) (rows : List Row) :
    numbered first (row :: rows) = (first, row) :: numbered (first + 1) rows := by
  rw [numbered, List.length_cons, List.range'_succ]
  rfl

/-- Rows that can be inserted one after another: they are as wide as the schema,
and their primary keys are present and differ from each other and from those of
the rows that are there. -/
structure Insertable (table : Table) (rows : List Row) : Prop where
  width : ∀ row ∈ rows, row.length = table.schema.columns.length
  keyed : ∀ row ∈ rows, (row.key? table.schema.keyPosition).isSome
  fresh : ∀ row ∈ rows, ∀ entry ∈ table.rows,
    entry.2.key? table.schema.keyPosition ≠ row.key? table.schema.keyPosition
  differ : rows.Pairwise fun earlier later =>
    earlier.key? table.schema.keyPosition ≠ later.key? table.schema.keyPosition

/-- A sound table with further rows behind those of before. -/
structure Extended (table : Table) (rows : List Row) (built : Table) : Prop where
  sound : built.Sound
  schema : built.schema = table.schema
  appended : built.rows = table.rows ++ numbered table.nextId rows
  nextId : built.nextId = table.nextId + rows.length

variable {table : Table}

theorem Extended.refl (sound : table.Sound) : table.Extended [] table :=
  ⟨sound, rfl, (List.append_nil _).symm, rfl⟩

/-- A table that is extended by a row and then by others is extended by all of them. -/
theorem Extended.trans {changed built : Table} {row : Row} {rows : List Row}
    (first : table.Extended [row] changed) (others : changed.Extended rows built) :
    table.Extended (row :: rows) built where
  sound := others.sound
  schema := others.schema.trans first.schema
  appended := by
    rw [others.appended, first.appended, first.nextId, List.append_assoc, numbered_cons]
    rfl
  nextId := by
    rw [others.nextId, first.nextId]
    exact (Nat.add_assoc _ _ _).trans (congrArg (table.nextId + ·) (Nat.add_comm 1 rows.length))

/-- The first of several rows is inserted, and the others still can be. -/
theorem Sound.insert_first {row : Row} {rows : List Row} (sound : table.Sound)
    (insertable : table.Insertable (row :: rows)) :
    ∃ changed, table.insert row = .ok (changed, table.nextId) ∧ table.Extended [row] changed ∧
      changed.Insertable rows := by
  have wide := insertable.width row List.mem_cons_self
  have passes : table.checkKey row = .ok () := by
    refine (sound.checkKey_eq_ok_iff wide).mpr
      ⟨insertable.keyed row List.mem_cons_self, fun other kept stands => ?_⟩
    exact insertable.fresh row List.mem_cons_self _ (sound.mem_of_viewOf stands)
  have inserts : table.insert row =
      .ok ({ table.place table.nextId row with nextId := table.nextId + 1 }, table.nextId) := by
    rw [Table.insert, if_neg (not_not.mpr wide), passes]
    rfl
  have last : insertOrdered table.nextId row table.rows = table.rows ++ [(table.nextId, row)] :=
    insertOrdered_of_below sound.below
  obtain ⟨unlike, differ⟩ := List.pairwise_cons.mp insertable.differ
  refine ⟨_, inserts, ⟨sound.insert inserts, rfl, last, rfl⟩, ?_, ?_, ?_, differ⟩
  · exact fun other member => insertable.width other (List.mem_cons_of_mem _ member)
  · exact fun other member => insertable.keyed other (List.mem_cons_of_mem _ member)
  · intro other member entry among
    rw [show (Table.place table table.nextId row).rows = _ from last] at among
    rcases List.mem_append.mp among with old | new
    · exact insertable.fresh other (List.mem_cons_of_mem _ member) entry old
    · rw [List.mem_singleton.mp new]
      exact unlike other member

/-- An index is declared if its name is new and it is on a column. -/
theorem exists_createIndex {declared : IndexDeclaration} {rest : List IndexDeclaration}
    (valid : Schema.IndexesValid
      { table.schema with indexes := table.schema.indexes ++ declared :: rest }) :
    ∃ extended, table.createIndex declared = .ok extended := by
  have fresh : table.schema.index? declared.name = none := by
    refine List.find?_eq_none.mpr fun other member named => ?_
    have differ := valid.names_differ
    rw [List.map_append, List.map_cons, List.nodup_append] at differ
    exact differ.2.2 other.name (List.mem_map_of_mem member) declared.name List.mem_cons_self
      (of_decide_eq_true named)
  have onColumn : declared.column ∈ table.schema.columnNames :=
    valid.on_columns declared (List.mem_append_right _ List.mem_cons_self)
  cases located : table.schema.position? declared.column with
  | none => exact absurd onColumn (Schema.position?_eq_none_iff.mp located)
  | some position =>
      rw [createIndex, fresh, Schema.position_eq_ok_iff.mpr located]
      cases table.indexOn? declared.column with
      | none => exact ⟨_, rfl⟩
      | some index => exact ⟨_, rfl⟩

end Table

namespace StoredTable

variable {table : Table}

/-- Kept rows that are read as insertable ones are inserted in their order. -/
theorem exists_insertRows {schema : Schema} {kept : List (NameMap Value)} {rows : List Row}
    (reads : List.Forall₂ (fun stored row => StoredTable.row schema stored = .ok row) kept rows)
    (sound : table.Sound) (same : table.schema = schema) (insertable : table.Insertable rows) :
    ∃ built, insertRows table kept = .ok built ∧ table.Extended rows built := by
  induction reads generalizing table with
  | nil => exact ⟨table, rfl, .refl sound⟩
  | @cons stored row kept rows read _ ih =>
      subst same
      obtain ⟨changed, inserts, first, insertable'⟩ := sound.insert_first insertable
      obtain ⟨built, inserts', others⟩ := ih first.sound first.schema insertable'
      refine ⟨built, ?_, first.trans others⟩
      rw [insertRows, read]
      dsimp only [bind, Except.bind]
      rw [inserts]
      exact inserts'

/-- Indexes with different names on columns are declared one after another. -/
theorem exists_declareIndexes {declarations : List IndexDeclaration} (sound : table.Sound)
    (valid : Schema.IndexesValid
      { table.schema with indexes := table.schema.indexes ++ declarations }) :
    ∃ built, declareIndexes table declarations = .ok built ∧ built.Sound ∧
      built.schema = { table.schema with indexes := table.schema.indexes ++ declarations } ∧
      built.rows = table.rows ∧ built.nextId = table.nextId := by
  induction declarations generalizing table with
  | nil => exact ⟨table, rfl, sound, by rw [List.append_nil], rfl, rfl⟩
  | cons declared rest ih =>
      obtain ⟨extended, creates⟩ := Table.exists_createIndex valid
      obtain ⟨-, -, schema, rows, nextId⟩ := Table.createIndex_eq_ok creates
      have remaining : extended.schema.indexes ++ rest =
          table.schema.indexes ++ declared :: rest := by
        rw [schema]
        exact List.append_assoc _ _ _
      have sameSchema : { extended.schema with indexes := extended.schema.indexes ++ rest } =
          { table.schema with indexes := table.schema.indexes ++ declared :: rest } := by
        rw [remaining, schema]
      obtain ⟨built, declares, sound', schema', rows', nextId'⟩ :=
        ih (sound.createIndex creates) (sameSchema ▸ valid)
      refine ⟨built, ?_, sound', schema'.trans sameSchema, rows'.trans rows,
        nextId'.trans nextId⟩
      rw [declareIndexes, creates]
      exact declares

end StoredTable

/-! ### Tables -/

namespace Table

/-- No primary key is lost in a snapshot. -/
def KeysFinite (table : Table) : Prop :=
  ∀ entry ∈ table.rows, ∀ key, entry.2[table.schema.keyPosition]? = some key → key.Finite

instance (table : Table) : Decidable table.KeysFinite :=
  inferInstanceAs (Decidable (∀ entry ∈ table.rows,
    ∀ key ∈ entry.2[table.schema.keyPosition]?, key.Finite))

variable {table built : Table}

/-- What is kept of a row has the same primary key. -/
theorem KeysFinite.key?_kept (keys : table.KeysFinite) {entry : RowId × Row}
    (member : entry ∈ table.rows) :
    (Row.kept entry.2).key? table.schema.keyPosition =
      entry.2.key? table.schema.keyPosition := by
  rw [Row.key?, Row.key?, Row.kept, List.getElem?_map]
  cases cell : entry.2[table.schema.keyPosition]? with
  | none => rfl
  | some key => rw [Option.map_some, Value.kept_of_finite (keys entry member key cell)]

/-- What comes back of a table, if it does: its rows are numbered from one on. -/
structure Rebuilt (table built : Table) : Prop where
  sound : built.Sound
  schema : built.schema = table.schema
  rows : built.rows = numbered 1 (table.rows.map fun entry => Row.kept entry.2)
  nextId : built.nextId = table.rows.length + 1

/-- The rows that come back of a table can be inserted into an empty one. -/
theorem WellTyped.kept_insertable (wellTyped : table.WellTyped) (keys : table.KeysFinite) :
    (bare table.schema).Insertable (table.rows.map fun entry => Row.kept entry.2) where
  width := by
    intro row member
    obtain ⟨entry, among, rfl⟩ := List.mem_map.mp member
    exact (List.length_map _).trans (wellTyped.width entry among)
  keyed := by
    intro row member
    obtain ⟨entry, among, rfl⟩ := List.mem_map.mp member
    have keyed := wellTyped.keyed entry among
    rwa [← keys.key?_kept among] at keyed
  fresh := fun _ _ _ none => nomatch none
  differ := by
    refine List.pairwise_map.mpr (List.Pairwise.imp_of_mem ?_ wellTyped.ascending)
    intro first second member member' less same
    have shared : first.2.key? table.schema.keyPosition =
        second.2.key? table.schema.keyPosition := by
      rw [← keys.key?_kept member, ← keys.key?_kept member']
      exact same
    exact absurd (wellTyped.keys_differ first member second member' shared) less.ne

/-- A well-typed table is built again from what comes back of it. -/
theorem WellTyped.exists_toTable (wellTyped : table.WellTyped) (keys : table.KeysFinite) :
    ∃ built, (StoredTable.ofTable table).kept.toTable table.schema.name = .ok built ∧
      table.Rebuilt built := by
  have valid : (Schema.mk table.schema.name table.schema.columns []).Valid :=
    ⟨wellTyped.valid.names_differ, wellTyped.valid.one_key⟩
  have reads : List.Forall₂ (fun stored row => StoredTable.row (bare table.schema).schema stored =
      .ok row) (StoredTable.ofTable table).kept.rows
        (table.rows.map fun entry => Row.kept entry.2) := by
    rw [StoredTable.kept, StoredTable.ofTable, List.map_map]
    refine List.forall₂_map_left_iff.mpr (List.forall₂_map_right_iff.mpr
      (List.forall₂_same.mpr fun entry member => ?_))
    exact StoredTable.row_zip valid (wellTyped.typed entry member)
  obtain ⟨filled, inserts, extended⟩ := StoredTable.exists_insertRows reads
    (bare_sound wellTyped.valid) rfl (wellTyped.kept_insertable keys)
  have sameSchema :
      { filled.schema with indexes := filled.schema.indexes ++ table.schema.indexes } =
        table.schema := by
    rw [extended.schema]
    rfl
  obtain ⟨built, declares, sound, schema, rows, nextId⟩ :=
    StoredTable.exists_declareIndexes extended.sound (sameSchema ▸ wellTyped.indexesValid)
  refine ⟨built, ?_, sound, schema.trans sameSchema, rows.trans extended.appended, ?_⟩
  · have created := Schema.create_eq_ok_iff.mpr ⟨rfl, valid⟩
    exact bind_eq_ok.mpr ⟨_, created, bind_eq_ok.mpr ⟨filled, inserts, declares⟩⟩
  · rw [nextId, extended.nextId, List.length_map]
    exact Nat.add_comm _ _

end Table

end Relational
