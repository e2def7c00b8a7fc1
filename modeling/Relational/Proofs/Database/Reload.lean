import Mathlib.Data.List.Nodup
import Relational.Directory
import Relational.Proofs.Database.Sound
import Relational.Proofs.Snapshot.Reload

/-!
# Databases come back from their snapshots

Whatever tables a database has, their snapshot is read back, table by table,
unless a primary key is a float that is not finite.  A reader of JSON may take the
text of a float for another float.  If all floats are finite and read back as they
were printed, nothing is lost: schemas, rows and the answers of the indexes are those
of before, except that the rows of each table are numbered from one on.
-/

namespace Relational

namespace Table

/-- Where the row of an identity stands among all rows, counted from one. -/
def renumber (table : Table) (id : RowId) : RowId :=
  (table.rows.map Prod.fst).idxOf id + 1

/-- A table that has the content of another one, with the identities numbered
from one on in their order. -/
structure Renumbered (table built : Table) : Prop where
  schema : built.schema = table.schema
  rows : built.rows = table.rows.map fun entry => (table.renumber entry.1, entry.2)
  identities : built.rows.map Prod.fst = List.range' 1 table.rows.length
  increasing : ∀ first ∈ table.rows, ∀ second ∈ table.rows, first.1 < second.1 →
    table.renumber first.1 < table.renumber second.1
  indexed : ∀ column, (built.indexOn? column).isSome = (table.indexOn? column).isSome
  answers : ∀ column index index', table.indexOn? column = some index →
    built.indexOn? column = some index' →
      ∀ value, index'.lookup value = (index.lookup value).map table.renumber

variable {table built : Table}

/-- The new number of a row is its place, counted from one. -/
theorem Sound.renumber_getElem (sound : table.Sound) {position : Nat}
    (inside : position < table.rows.length) :
    table.renumber (table.rows[position]).1 = position + 1 := by
  have listed : position < (table.rows.map Prod.fst).length := by rwa [List.length_map]
  have found := sound.ascending.keys_nodup.idxOf_getElem position listed
  rw [List.getElem_map] at found
  rw [renumber, found]

/-- Numbering the rows from one on gives every row its new number. -/
theorem Sound.numbered_eq (sound : table.Sound) :
    numbered 1 (table.rows.map Prod.snd) =
      table.rows.map fun entry => (table.renumber entry.1, entry.2) := by
  refine List.ext_getElem (by simp [numbered]) fun position inside inside' => ?_
  rw [List.length_map] at inside'
  simp [numbered, sound.renumber_getElem inside', Nat.add_comm]

/-- Rows further on have greater numbers. -/
theorem Sound.renumber_lt (sound : table.Sound) {first second : RowId × Row}
    (member : first ∈ table.rows) (member' : second ∈ table.rows) (less : first.1 < second.1) :
    table.renumber first.1 < table.renumber second.1 := by
  obtain ⟨position, inside, rfl⟩ := List.mem_iff_getElem.mp member
  obtain ⟨position', inside', rfl⟩ := List.mem_iff_getElem.mp member'
  rw [sound.renumber_getElem inside, sound.renumber_getElem inside']
  by_contra further
  have behind : position' ≤ position := Nat.le_of_succ_le_succ (Nat.le_of_not_lt further)
  rcases Nat.eq_or_lt_of_le behind with rfl | before
  · exact lt_irrefl _ less
  · exact absurd less (List.pairwise_iff_getElem.mp sound.ascending _ _ inside' inside before).asymm

/-- A table without a float that is not finite comes back with its content. -/
theorem Rebuilt.renumbered (rebuilt : table.Rebuilt built) (sound : table.Sound)
    (finite : ∀ entry ∈ table.rows, ∀ cell ∈ entry.2, cell.Finite) : table.Renumbered built := by
  have kept : (table.rows.map fun entry => Row.kept entry.2) = table.rows.map Prod.snd := by
    refine List.map_congr_left fun entry member => ?_
    exact (List.map_congr_left fun cell among => Value.kept_of_finite
      (finite entry member cell among)).trans (List.map_id entry.2)
  have rows : built.rows = table.rows.map fun entry => (table.renumber entry.1, entry.2) := by
    rw [rebuilt.rows, kept, sound.numbered_eq]
  refine ⟨rebuilt.schema, rows, ?_, fun first member second member' less =>
    sound.renumber_lt member member' less, fun column => ?_, ?_⟩
  · rw [rebuilt.rows, numbered, List.map_fst_zip (by simp), List.length_map]
  · rw [Bool.eq_iff_iff, rebuilt.sound.isSome_indexOn?_iff, sound.isSome_indexOn?_iff,
      rebuilt.schema]
  · intro column index index' found found' value
    obtain ⟨member, rfl⟩ := Sound.mem_of_indexOn? found
    obtain ⟨member', named⟩ := Sound.mem_of_indexOn? found'
    have position : index'.position = index.position := by
      have located := rebuilt.sound.positions index' member'
      rw [rebuilt.schema, named] at located
      exact Option.some.inj (located.symm.trans (sound.positions index member))
    rw [(rebuilt.sound.reflects index' member').lookup_eq rebuilt.sound.ascending,
      (sound.reflects index member).lookup_eq sound.ascending, rows, position, List.filter_map,
      List.map_map, List.map_map]
    rfl

end Table

/-! ### Snapshots of tables -/

/-- A table with readable cells is stored as a readable one. -/
theorem StoredTable.ofTable_readable {table : Table}
    (readable : ∀ entry ∈ table.rows, ∀ cell ∈ entry.2, cell.Readable) :
    (ofTable table).Readable where
  ordered := by
    intro row member
    obtain ⟨entry, -, rfl⟩ := List.mem_map.mp member
    exact NameMap.ofList_ordered _
  cells := by
    intro row member cell among
    obtain ⟨entry, listed, rfl⟩ := List.mem_map.mp member
    exact readable entry listed _ (List.of_mem_zip (NameMap.mem_of_mem_ofList among)).2

/-- Tables that lost no primary key are built again one after another. -/
theorem Snapshot.exists_restoreEntries (path : String) {entries : List (String × Table)}
    (each : ∀ entry ∈ entries,
      entry.2.WellTyped ∧ entry.2.KeysFinite ∧ entry.2.schema.name = entry.1) :
    ∃ tables, restoreEntries path
        (entries.map fun entry => (entry.1, (StoredTable.ofTable entry.2).kept)) = .ok tables ∧
      List.Forall₂ (fun entry entry' => entry'.1 = entry.1 ∧ entry.2.Rebuilt entry'.2)
        entries tables := by
  induction entries with
  | nil => exact ⟨[], rfl, .nil⟩
  | cons entry rest ih =>
      obtain ⟨name, table⟩ := entry
      obtain ⟨wellTyped, keys, named⟩ := each _ List.mem_cons_self
      obtain ⟨built, builds, rebuilt⟩ := wellTyped.exists_toTable keys
      obtain ⟨tables, others, follow⟩ := ih fun other member =>
        each other (List.mem_cons_of_mem _ member)
      refine ⟨(name, built) :: tables, ?_, .cons ⟨rfl, rebuilt⟩ follow⟩
      dsimp only at named
      rw [named] at builds
      rw [List.map_cons, restoreEntries, builds]
      dsimp only
      rw [others]
      rfl

namespace Database

variable {database : Database}

/-- The tables of a sound database that lost no primary key come back from their
snapshot. -/
theorem Sound.exists_read (sound : database.Sound) (path : String)
    (keys : ∀ entry ∈ database.tables.entries, entry.2.KeysFinite)
    (readable : ∀ entry ∈ database.tables.entries, ∀ row ∈ entry.2.rows, ∀ cell ∈ row.2,
      cell.Readable) :
    ∃ tables, Snapshot.read path (Snapshot.ofTables database.tables).text = .ok tables ∧
      List.Forall₂ (fun entry entry' => entry'.1 = entry.1 ∧ entry.2.Rebuilt entry'.2)
        database.tables.entries tables.entries := by
  have filed : ∀ entry ∈ database.tables.entries,
      database.tables.get? entry.1 = some entry.2 := fun entry member =>
    sound.ordered.get?_eq_some_iff.mpr member
  have read : Snapshot.ofText? (Snapshot.ofTables database.tables).text =
      some (Snapshot.ofTables database.tables).kept := by
    refine Snapshot.ofText?_text ⟨sound.ordered.map _, fun entry member => ?_⟩
    obtain ⟨original, listed, rfl⟩ := List.mem_map.mp member
    exact StoredTable.ofTable_readable (readable original listed)
  have each : ∀ entry ∈ database.tables.entries,
      entry.2.WellTyped ∧ entry.2.KeysFinite ∧ entry.2.schema.name = entry.1 :=
    fun entry member => ⟨sound.wellTyped _ _ (filed entry member), keys entry member,
      sound.named _ _ (filed entry member)⟩
  obtain ⟨tables, builds, rebuilt⟩ := Snapshot.exists_restoreEntries path each
  have listed : (Snapshot.ofTables database.tables).kept.tables.entries =
      database.tables.entries.map fun entry =>
        (entry.1, (StoredTable.ofTable entry.2).kept) := by
    simp only [Snapshot.kept, Snapshot.ofTables, NameMap.map, List.map_map]
    rfl
  refine ⟨⟨tables⟩, ?_, rebuilt⟩
  rw [Snapshot.read, read]
  dsimp only
  rw [Snapshot.toTables, listed, builds]
  rfl

/-- The names of tables that correspond are the same. -/
theorem names_eq_of_forall₂ {related : Table → Table → Prop}
    {entries others : List (String × Table)}
    (follow : List.Forall₂ (fun entry entry' => entry'.1 = entry.1 ∧ related entry.2 entry'.2)
      entries others) : others.map Prod.fst = entries.map Prod.fst := by
  induction follow with
  | nil => rfl
  | cons first _ ih => rw [List.map_cons, List.map_cons, first.1, ih]

/-- A reachable database whose floats are all finite, and are read back as they were
printed, comes back from its snapshot with nothing lost, wherever the snapshot can be
written. -/
theorem Reachable.read_written (reachable : database.Reachable)
    (finite : ∀ entry ∈ database.tables.entries, ∀ row ∈ entry.2.rows, ∀ cell ∈ row.2,
      cell.Finite ∧ cell.Readable)
    {directory : Directory} {file : String} (accepts : directory.accepts file = true)
    (path : String) :
    ∃ written text tables,
      directory.replace? file (Snapshot.ofTables database.tables).text = some written ∧
      written.read? file = some text ∧ Snapshot.read path text = .ok tables ∧
      tables.names = database.tables.names ∧
      ∀ name table, database.tables.get? name = some table →
        ∃ built, tables.get? name = some built ∧ table.Renumbered built := by
  have sound := reachable.sound
  obtain ⟨tables, read, rebuilt⟩ := sound.exists_read path
    (fun entry member row among key cell =>
      (finite entry member row among key (List.mem_of_getElem? cell)).1)
    (fun entry member row among cell listed => (finite entry member row among cell listed).2)
  refine ⟨_, _, tables, if_pos accepts, ?_, read, names_eq_of_forall₂ rebuilt, ?_⟩
  · rw [Directory.read?, Directory.put, NameMap.get?_insert, if_pos rfl]
  · intro name table filed
    have listed := sound.ordered.get?_eq_some_iff.mp filed
    obtain ⟨⟨_, built⟩, member, rfl, rebuilt⟩ := exists_of_forall₂ rebuilt listed
    have found := (Snapshot.read_wellTyped read).1.get?_eq_some_iff.mpr member
    exact ⟨built, found, rebuilt.renumbered (sound.wellTyped _ _ filed).toSound
      fun row among cell kept => (finite _ listed row among cell kept).1⟩

/-- Statements about tanks that leave a gap between the identities. -/
def replacement : List Statement :=
  [tankRow (.literal (.integer 4)) (.literal (.text "full")),
    .delete ⟨"tank", some (.binary .equal (.column "level") (.literal (.integer 1)))⟩]

/-- A database of the tanks after the replacement. -/
def depot : Database :=
  executeAll leapDay ⟨"depot", tanks⟩ replacement

/-- The tanks behind a gap in their identities come back without the gap. -/
theorem depot_read_written :
    depot.Reachable ∧ (depot.tables.values.map fun table => table.rows.map Prod.fst) = [[1, 3]] ∧
      (∀ entry ∈ depot.tables.entries, ∀ row ∈ entry.2.rows, ∀ cell ∈ row.2,
        cell.Finite ∧ cell.Readable) ∧
      Directory.empty.accepts "depot.json" = true ∧
      ∃ written text tables,
        Directory.empty.replace? "depot.json" (Snapshot.ofTables depot.tables).text =
          some written ∧
        written.read? "depot.json" = some text ∧
        Snapshot.read "data/depot.json" text = .ok tables ∧
        tables.names = depot.tables.names ∧
        ∀ name table, depot.tables.get? name = some table →
          ∃ built, tables.get? name = some built ∧ table.Renumbered built := by
  have valid : ∀ statement ∈ replacement, statement.Valid := by
    simp [replacement, tankRow, Statement.Valid]
  have reachable : depot.Reachable :=
    (Reachable.restored "depot" read_tankDocument).executeAll leapDay valid
  have finite : ∀ entry ∈ depot.tables.entries, ∀ row ∈ entry.2.rows, ∀ cell ∈ row.2,
      cell.Finite ∧ cell.Readable := by decide +kernel
  have accepts : Directory.empty.accepts "depot.json" = true := by decide +kernel
  exact ⟨reachable, by decide +kernel, finite, accepts,
    reachable.read_written finite accepts "data/depot.json"⟩

end Database

end Relational
