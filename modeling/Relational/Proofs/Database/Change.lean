import Relational.Proofs.Database.Partition
import Relational.Proofs.Statement.Assignment

/-!
# What updates and removals do

An update or a removal that succeeds has found its rows, and computed all new rows,
on the table as it was, before it changes the first one.  What it leaves is
therefore described by the rows of before: those that met the condition are
replaced or gone, the others are what they were, and so is every other table.
-/

namespace Relational

/-! ### Series of changes -/

namespace Table

variable {table changed : Table} {log : ChangeLog} {count : Nat}

/-- A table in which only the rows, and the indexes with them, are different. -/
structure HasRows (table : Table) (rows : List (RowId × Row)) (changed : Table) : Prop where
  schema : changed.schema = table.schema
  rows : changed.rows = rows
  nextId : changed.nextId = table.nextId

/-- Rows, those of some identities being replaced. -/
def replaceRows (changes rows : List (RowId × Row)) : List (RowId × Row) :=
  rows.map fun entry => (entry.1, (changes.lookup entry.1).getD entry.2)

/-- Replacing a row and then others is replacing all of them at once, if they are different
rows. -/
theorem replaceRows_cons {id : RowId} {row : Row} {changes rows : List (RowId × Row)}
    (once : id ∉ changes.map Prod.fst) :
    replaceRows changes (rows.map fun entry => if entry.1 = id then (id, row) else entry) =
      replaceRows ((id, row) :: changes) rows := by
  rw [replaceRows, List.map_map]
  refine List.map_congr_left fun entry _ => ?_
  rw [Function.comp_apply, lookup_cons_eq_ite]
  by_cases here : entry.1 = id
  · have absent : changes.lookup id = none := by
      rw [List.lookup_eq_none_iff]
      intro change member
      exact bne_iff_ne.mpr fun same => once (List.mem_map.mpr ⟨change, member, same.symm⟩)
    simp [here, absent]
  · simp [here]

/-- Updates of different rows that all succeed replace these rows only. -/
theorem applyUpdates_eq_ok {changes : List (RowId × Row)} (differ : (changes.map Prod.fst).Nodup)
    (applied : table.applyUpdates log changes = (changed, .ok count)) :
    count = log.length + changes.length ∧
      table.HasRows (replaceRows changes table.rows) changed := by
  induction changes generalizing table log with
  | nil =>
      cases applied
      exact ⟨rfl, rfl, by simp [replaceRows], rfl⟩
  | cons change rest ih =>
      obtain ⟨id, row⟩ := change
      obtain ⟨once, differ⟩ := List.nodup_cons.mp differ
      rw [applyUpdates] at applied
      split at applied
      · rename_i updated
        obtain ⟨-, -, rfl⟩ := update_eq_ok_iff.mp updated
        obtain ⟨counted, schema, rows, nextId⟩ := ih differ applied
        refine ⟨?_, schema, rows.trans (replaceRows_cons once), nextId⟩
        simp only [counted, List.length_cons]
        omega
      · cases applied

/-- Deletions that all succeed remove these rows only. -/
theorem applyDeletes_eq_ok {ids : List RowId}
    (applied : table.applyDeletes log ids = (changed, .ok count)) :
    count = log.length + ids.length ∧
      table.HasRows (table.rows.filter fun entry => entry.1 ∉ ids) changed := by
  induction ids generalizing table log with
  | nil =>
      cases applied
      exact ⟨rfl, rfl, by simp, rfl⟩
  | cons id rest ih =>
      rw [applyDeletes] at applied
      split at applied
      · rename_i deleted
        obtain ⟨-, rfl⟩ := delete_eq_ok_iff.mp deleted
        obtain ⟨counted, schema, rows, nextId⟩ := ih applied
        refine ⟨?_, schema, rows.trans ?_, nextId⟩
        · simp only [counted, List.length_cons]
          omega
        · simp only [List.filter_filter, List.mem_cons, not_or]
          exact List.filter_congr fun entry _ => by rw [Bool.decide_and, Bool.and_comm]
      · cases applied

end Table

/-! ### Rows by their identities -/

namespace Ascending

variable {rows : List (RowId × Row)} {entry : RowId × Row}

/-- The identity of a row tells whether it belongs to a selection. -/
theorem mem_map_filter_iff (ascending : Ascending rows) (kept : RowId × Row → Bool)
    (member : entry ∈ rows) :
    entry.1 ∈ (rows.filter kept).map Prod.fst ↔ kept entry = true := by
  constructor
  · intro listed
    obtain ⟨other, selected, same⟩ := List.mem_map.mp listed
    obtain ⟨among, keeps⟩ := List.mem_filter.mp selected
    have here := List.inj_on_of_nodup_map ascending.keys_nodup among member same
    rwa [← here]
  · intro keeps
    exact List.mem_map_of_mem (List.mem_filter.mpr ⟨member, keeps⟩)

end Ascending

namespace Update

/-- What an update makes of an entry of a table.  It keeps the identity and the
primary key, leaves the row alone if it does not meet the condition, and otherwise
assigns to it. -/
structure Treats (now : DateTime) (schema : Schema) (change : Update) (condition : Option Expr)
    (entry entry' : RowId × Row) : Prop where
  id : entry'.1 = entry.1
  key : entry'.2[schema.keyPosition]? = entry.2[schema.keyPosition]?
  unmet : entry.2.meets now schema condition = false → entry'.2 = entry.2
  met : entry.2.meets now schema condition = true → change.Describes now schema entry.2 entry'.2

variable {now : DateTime} {schema : Schema} {change : Update} {condition : Option Expr}
  {row changed : Row} {table : Table} {bound : BoundUpdate} {computed : List (RowId × Row)}

/-- A change that is described keeps the primary key. -/
theorem Describes.key_kept (describes : change.Describes now schema row changed)
    (valid : schema.Valid) : changed[schema.keyPosition]? = row[schema.keyPosition]? := by
  obtain ⟨column, declared⟩ : ∃ column, schema.columns[schema.keyPosition]? = some column :=
    ⟨_, List.getElem?_eq_getElem valid.keyPosition_lt⟩
  have named : schema.keyName = column.name := by
    rw [Schema.keyName, declared]
  exact describes.others _ column declared (named ▸ describes.no_key)

/-- The new rows that an update computes are those of the rows that meet the
condition, in their order. -/
theorem changes_eq_ok (wellTyped : table.WellTyped) (binds : change.bind table.schema = .ok bound)
    (computes : Update.changes now table bound = .ok computed) :
    List.Forall₂ (fun entry result => result.1 = entry.1 ∧
        change.Describes now table.schema entry.2 result.2)
      (table.rows.filter fun entry => entry.2.meets now table.schema bound.condition) computed := by
  obtain ⟨found, finds, computes⟩ := bind_eq_ok.mp computes
  have coerces := (Expr.Bound.update binds).coerces
  rw [← Table.matchingRows_eq wellTyped.toSound wellTyped.typed coerces finds]
  have among : ∀ entry ∈ found, entry ∈ table.rows :=
    fun entry member => Table.mem_of_matchingRows wellTyped.toSound finds member
  have each := (List.forall₂_and_left _ _).mpr ⟨among, mapM_eq_ok.mp computes⟩
  refine each.imp fun entry result ⟨member, computed⟩ => ?_
  obtain ⟨row, assigns, result⟩ := bind_eq_ok.mp computed
  cases result
  exact ⟨rfl, assign_describes wellTyped.valid (wellTyped.typed entry member) binds assigns⟩

/-- The rows that an update computes are those that meet its condition. -/
theorem changes_ids (wellTyped : table.WellTyped) (binds : change.bind table.schema = .ok bound)
    (computes : Update.changes now table bound = .ok computed) :
    computed.map Prod.fst = (table.rows.filter fun entry =>
      entry.2.meets now table.schema bound.condition).map Prod.fst := by
  rw [← List.forall₂_eq_eq_eq, List.forall₂_map_left_iff, List.forall₂_map_right_iff]
  exact ((changes_eq_ok wellTyped binds computes).imp fun entry result treated => treated.1).flip

/-- Replacing the rows that an update computes treats each row of the table as the
update says. -/
theorem replaceRows_treats (wellTyped : table.WellTyped)
    (binds : change.bind table.schema = .ok bound)
    (computes : Update.changes now table bound = .ok computed) :
    List.Forall₂ (change.Treats now table.schema bound.condition) table.rows
      (Table.replaceRows computed table.rows) := by
  have each := changes_eq_ok wellTyped binds computes
  have ids := changes_ids wellTyped binds computes
  have ascending : Ascending computed := by
    have selected := List.pairwise_map.mpr (wellTyped.ascending.filter fun entry =>
      entry.2.meets now table.schema bound.condition)
    rw [← ids] at selected
    exact List.pairwise_map.mp selected
  rw [Table.replaceRows, List.forall₂_map_right_iff, List.forall₂_same]
  intro entry member
  have selected := wellTyped.ascending.mem_map_filter_iff
    (fun entry => entry.2.meets now table.schema bound.condition) member
  cases meets : entry.2.meets now table.schema bound.condition with
  | false =>
      have absent : computed.lookup entry.1 = none := by
        rw [List.lookup_eq_none_iff]
        intro result listed
        refine bne_iff_ne.mpr fun same => ?_
        have listed := List.mem_map_of_mem (f := Prod.fst) listed
        rw [← same, ids, selected, meets] at listed
        cases listed
      rw [absent]
      exact ⟨rfl, rfl, fun _ => rfl, fun met => nomatch meets.symm.trans met⟩
  | true =>
      obtain ⟨result, listed, id, describes⟩ :=
        exists_of_forall₂ each (List.mem_filter.mpr ⟨member, meets⟩)
      have stands : computed.lookup entry.1 = some result.2 :=
        ascending.lookup_eq_some_iff.mpr (id ▸ listed)
      rw [stands]
      exact ⟨rfl, describes.key_kept wellTyped.valid, fun unmet => (nomatch meets.symm.trans unmet),
        fun _ => describes⟩

end Update

namespace Database

variable {now : DateTime} {database after : Database} {outcome : Outcome}

/-- A database in which one table has other rows, and nothing else is different. -/
structure ReplacesRows (database : Database) (name : String) (table : Table)
    (rows : List (RowId × Row)) (after : Database) : Prop where
  same_name : after.name = database.name
  before : database.tables.get? name = some table
  changed : ∃ changed, after.tables.get? name = some changed ∧ table.HasRows rows changed
  others : ∀ other, other ≠ name → after.tables.get? other = database.tables.get? other

/-- Filing a table with other rows replaces these rows in the database. -/
theorem withTable_replacesRows {name : String} {table changed : Table}
    {rows : List (RowId × Row)} (filed : database.tables.get? name = some table)
    (replaced : table.HasRows rows changed) :
    database.ReplacesRows name table rows (database.withTable name changed) := by
  refine ⟨rfl, filed, ⟨changed, ?_, replaced⟩, fun other elsewhere => ?_⟩
  · rw [withTable, NameMap.get?_insert, if_pos rfl]
  · rw [withTable, NameMap.get?_insert, if_neg elsewhere]

/-- What an update does when it succeeds. -/
structure Updates (now : DateTime) (database : Database) (change : Update) (table : Table)
    (condition : Option Expr) (rows : List (RowId × Row)) (after : Database) (outcome : Outcome) :
    Prop where
  replaces : database.ReplacesRows change.table table rows after
  treats : List.Forall₂ (change.Treats now table.schema condition) table.rows rows
  reports : outcome = .changed
    (table.rows.filter fun entry => entry.2.meets now table.schema condition).length

/-- What a removal does when it succeeds. -/
structure Removes (now : DateTime) (database : Database) (removal : Delete) (table : Table)
    (condition : Option Expr) (after : Database) (outcome : Outcome) : Prop where
  replaces : database.ReplacesRows removal.table table
    (table.rows.filter fun entry => !entry.2.meets now table.schema condition) after
  reports : outcome = .changed
    (table.rows.filter fun entry => entry.2.meets now table.schema condition).length

/-- Changes of a table that succeed file the changed table and report their number. -/
theorem withChanges_eq_ok {name : String} {applied : Table × Except Error Nat}
    (succeeds : database.withChanges name applied = (after, .ok outcome)) :
    ∃ count, applied = (applied.1, .ok count) ∧ after = database.withTable name applied.1 ∧
      outcome = .changed count := by
  obtain ⟨changed, counted⟩ := applied
  obtain ⟨rfl, counts⟩ := Prod.mk.inj succeeds
  obtain ⟨count, rfl, rfl⟩ := map_eq_ok.mp counts
  exact ⟨count, rfl, rfl, rfl⟩

/-- An update that succeeds on a sound database does what it says. -/
theorem Sound.updates {change : Update} (sound : database.Sound)
    (succeeds : database.execute now (.update change) = (after, .ok outcome)) :
    ∃ table bound rows, change.bind table.schema = .ok bound ∧
      database.Updates now change table bound.condition rows after outcome := by
  rw [Database.execute] at succeeds
  split at succeeds
  · rename_i table computed prepared
    obtain ⟨_, filed, prepared⟩ := bind_eq_ok.mp prepared
    obtain ⟨bound, binds, prepared⟩ := bind_eq_ok.mp prepared
    obtain ⟨_, computes, result⟩ := bind_eq_ok.mp prepared
    cases result
    have filed := table_eq_ok_iff.mp filed
    have wellTyped := sound.wellTyped _ _ filed
    have ids := Update.changes_ids wellTyped binds computes
    obtain ⟨count, applied, rfl, rfl⟩ := withChanges_eq_ok succeeds
    have differ : (computed.map Prod.fst).Nodup := by
      rw [ids]
      exact (wellTyped.ascending.filter _).keys_nodup
    obtain ⟨counted, replaced⟩ := Table.applyUpdates_eq_ok differ applied
    refine ⟨table, bound, _, binds, withTable_replacesRows filed replaced,
      Update.replaceRows_treats wellTyped binds computes, congrArg Outcome.changed ?_⟩
    rw [counted, List.length_nil, Nat.zero_add, ← List.length_map (f := Prod.fst), ids,
      List.length_map]
  · cases succeeds

/-- A removal that succeeds on a sound database does what it says. -/
theorem Sound.removes {removal : Delete} (sound : database.Sound)
    (succeeds : database.execute now (.delete removal) = (after, .ok outcome)) :
    ∃ table condition, Expr.bindCondition table.schema removal.condition = .ok condition ∧
      database.Removes now removal table condition after outcome := by
  rw [Database.execute] at succeeds
  split at succeeds
  · rename_i table ids prepared
    obtain ⟨_, filed, prepared⟩ := bind_eq_ok.mp prepared
    obtain ⟨condition, binds, prepared⟩ := bind_eq_ok.mp prepared
    obtain ⟨found, finds, result⟩ := bind_eq_ok.mp prepared
    cases result
    have filed := table_eq_ok_iff.mp filed
    have wellTyped := sound.wellTyped _ _ filed
    have coerces : Expr.coerceCondition table.schema removal.condition = .ok condition :=
      Expr.Bound.coerces (.delete binds)
    have found_eq := Table.matchingRows_eq wellTyped.toSound wellTyped.typed coerces finds
    obtain ⟨count, applied, rfl, rfl⟩ := withChanges_eq_ok succeeds
    obtain ⟨counted, replaced⟩ := Table.applyDeletes_eq_ok applied
    have left : (table.rows.filter fun entry => entry.1 ∉ found.map Prod.fst) =
        table.rows.filter fun entry => !entry.2.meets now table.schema condition := by
      refine List.filter_congr fun entry member => ?_
      rw [found_eq, decide_not]
      congr 1
      exact Bool.eq_iff_iff.mpr
        (decide_eq_true_iff.trans (wellTyped.ascending.mem_map_filter_iff _ member))
    rw [left] at replaced
    refine ⟨table, condition, binds, withTable_replacesRows filed replaced,
      congrArg Outcome.changed ?_⟩
    rw [counted, List.length_nil, Nat.zero_add, List.length_map, found_eq]
  · cases succeeds

/-- Every update and every removal that succeeds on a reachable database does exactly
what it says to the rows that meet its condition, and nothing else. -/
theorem Reachable.changes_exactly (reachable : database.Reachable) (now : DateTime) :
    (∀ change after outcome, database.execute now (.update change) = (after, .ok outcome) →
      ∃ table bound rows, change.bind table.schema = .ok bound ∧
        database.Updates now change table bound.condition rows after outcome) ∧
    (∀ removal after outcome, database.execute now (.delete removal) = (after, .ok outcome) →
      ∃ table condition, Expr.bindCondition table.schema removal.condition = .ok condition ∧
        database.Removes now removal table condition after outcome) :=
  ⟨fun _ _ _ succeeds => reachable.sound.updates succeeds,
    fun _ _ _ succeeds => reachable.sound.removes succeeds⟩

/-! ### Swapped columns -/

/-- The table of `2 ^ 53` with an index on the column that is swapped. -/
def indexedTallied : Table :=
  { tallied with
    schema := { tallied.schema with indexes := [⟨"by_n", "n"⟩] }
    indexes := tallied.indexes ++ [Index.build "n" 1 tallied.rows] }

/-- A database of that table. -/
def indexedTally : Database :=
  ⟨"tally", ⟨[("t", indexedTallied)]⟩⟩

/-- The indexed tally is made from the tally by one statement. -/
theorem indexedTally_reachable : indexedTally.Reachable := by
  have made : (tally.execute leapDay (.createIndex ⟨"by_n", "t", "n"⟩)).1 = indexedTally := by
    decide +kernel
  rw [← made]
  exact tally_reachable.executed leapDay trivial

/-- An update that swaps two columns and is found by the index on one of them. -/
def swapping : Update :=
  ⟨"t", [("n", .column "m"), ("m", .column "n")],
    some (.binary .equal (.column "n") (.literal (.text "9007199254740992")))⟩

/-- The removal of the rows that the update does not find. -/
def clearing : Delete :=
  ⟨"t", some (.binary .less (.column "n") (.literal (.integer 9007199254740992)))⟩

/-- The rows that the update makes. -/
def swapped : List (RowId × Row) :=
  [(1, [.integer 1, .null, .integer 9007199254740992]),
    (2, [.integer 2, .integer 1, .integer 9007199254740992])]

/-- The swap finds its rows by the index on one of the swapped columns. -/
theorem prepareUpdate_swapping :
    indexedTally.prepareUpdate leapDay swapping = .ok (indexedTallied, swapped) := by
  let condition : Expr :=
    .binary .equal (.column "n") (.literal (.integer 9007199254740992))
  have filed : indexedTally.tables.get? "t" = some indexedTallied := by decide +kernel
  have binds : swapping.bind indexedTallied.schema =
      .ok ⟨[(1, .column "m"), (2, .column "n")], some condition⟩ := rfl
  have decides : ∀ entry ∈ indexedTallied.rows,
      entry.2.Decides leapDay indexedTallied.schema (some condition) := by
    have outcomes : ∀ entry ∈ indexedTallied.rows,
        condition.isMet (Scope.ofRow leapDay indexedTallied.schema entry.2) = .ok true ∨
          condition.isMet (Scope.ofRow leapDay indexedTallied.schema entry.2) = .ok false := by
      decide +kernel
    intro entry member
    rcases outcomes entry member with met | unmet
    · exact ⟨_, met⟩
    · exact ⟨_, unmet⟩
  obtain ⟨same, exists_found⟩ :=
    indexedTally_reachable.matchingRows_eq_filter filed (.update binds) leapDay
  obtain ⟨found, finds⟩ := exists_found decides
  have found_eq : found = indexedTallied.rows.take 2 :=
    (same found finds).1.trans (by decide +kernel)
  rw [found_eq] at finds
  have computes : Update.changes leapDay indexedTallied
      ⟨[(1, .column "m"), (2, .column "n")], some condition⟩ = .ok swapped :=
    bind_eq_ok.mpr ⟨_, finds, by decide +kernel⟩
  exact bind_eq_ok.mpr ⟨_, table_eq_ok_iff.mpr filed,
    bind_eq_ok.mpr ⟨_, binds, bind_eq_ok.mpr ⟨_, computes, rfl⟩⟩⟩

/-- Two columns are swapped in the rows found by an index on one of them, and other rows are
removed. -/
theorem indexedTally_changed : indexedTally.Reachable ∧
    (∃ after, indexedTally.execute leapDay (.update swapping) = (after, .ok (.changed 2)) ∧
      (after.tables.get? "t").map Table.rows =
        some (swapped ++ [(3, [.integer 3, .integer 5, .integer 1])]) ∧
      ∃ table bound rows, swapping.bind table.schema = .ok bound ∧
        indexedTally.Updates leapDay swapping table bound.condition rows after (.changed 2)) ∧
    ∃ after, indexedTally.execute leapDay (.delete clearing) = (after, .ok (.changed 1)) ∧
      ∃ table condition, Expr.bindCondition table.schema clearing.condition = .ok condition ∧
        indexedTally.Removes leapDay clearing table condition after (.changed 1) := by
  have swaps : indexedTally.execute leapDay (.update swapping) =
      indexedTally.withChanges "t" (indexedTallied.applyUpdates [] swapped) := by
    rw [execute, prepareUpdate_swapping]
    rfl
  have counts : (indexedTallied.applyUpdates [] swapped).2 = .ok 2 := by decide +kernel
  have succeeds := swaps.trans (Prod.ext rfl (congrArg (Except.map Outcome.changed) counts))
  have clears : (indexedTally.execute leapDay (.delete clearing)).2 = .ok (.changed 1) := by
    decide +kernel
  have changes := indexedTally_reachable.changes_exactly leapDay
  exact ⟨indexedTally_reachable, ⟨_, succeeds, by decide +kernel, changes.1 _ _ _ succeeds⟩,
    _, Prod.ext rfl clears, changes.2 _ _ _ (Prod.ext rfl clears)⟩

end Database

end Relational
