import Mathlib.Data.List.Dedup
import Mathlib.Logic.Function.Basic
import Relational.Proofs.Ascending
import Relational.Proofs.Value.Key

/-!
# Indexes that reflect rows

An index reflects a view of rows if it files exactly the rows of the view, each
under the key of its cell in the indexed column, and none twice.  Filing,
removing and replacing a row keep this up as the view changes at that row.  What
such an index answers is determined by the rows alone, whatever the order in
which they were filed.
-/

namespace Relational

namespace Row

/-- The key of the cell at a position. -/
def key? (row : Row) (position : Nat) : Option Key :=
  row[position]?.bind Key.ofValue?

/-- Whether the cell at a position has the key of a value. -/
def isUnder (row : Row) (position : Nat) (value : Value) : Bool :=
  (Key.ofValue? value).any fun key => row.key? position = some key

end Row

/-- What rows say of an identity: the row that it stands for, if any. -/
def viewOf (rows : List (RowId × Row)) : RowId → Option Row :=
  fun id => rows.lookup id

namespace Bucket

variable {buckets : List Bucket} {key filed : Key} {id other : RowId}

/-- The pairs of a key and a row that buckets hold. -/
def pairs (buckets : List Bucket) : List (Key × RowId) :=
  buckets.flatMap fun bucket => bucket.rows.map fun id => (bucket.key, id)

theorem pairs_cons (bucket : Bucket) (rest : List Bucket) :
    pairs (bucket :: rest) = (bucket.rows.map fun id => (bucket.key, id)) ++ pairs rest :=
  List.flatMap_cons

/-- A row is filed under a key when some bucket of this key holds it. -/
theorem mem_pairs_iff :
    (key, id) ∈ pairs buckets ↔ ∃ bucket ∈ buckets, bucket.key = key ∧ id ∈ bucket.rows := by
  simp only [pairs, List.mem_flatMap, List.mem_map, Prod.mk.injEq]
  constructor
  · rintro ⟨bucket, member, _, inside, same, rfl⟩
    exact ⟨bucket, member, same, inside⟩
  · rintro ⟨bucket, member, same, inside⟩
    exact ⟨bucket, member, id, inside, same, rfl⟩

/-- A key stands over its rows, of which there is at least one. -/
theorem mem_keys_iff : key ∈ keys buckets ↔ ∃ id, (key, id) ∈ pairs buckets := by
  simp only [mem_pairs_iff, keys, List.mem_map]
  constructor
  · rintro ⟨bucket, member, same⟩
    obtain ⟨id, inside⟩ := List.exists_mem_of_ne_nil _ bucket.nonempty
    exact ⟨id, bucket, member, same, inside⟩
  · rintro ⟨_, bucket, member, same, -⟩
    exact ⟨bucket, member, same⟩

/-- The pairs that a bucket holds. -/
theorem mem_cons_iff (bucket : Bucket) (rest : List Bucket) :
    (filed, other) ∈ pairs (bucket :: rest) ↔
      bucket.key = filed ∧ other ∈ bucket.rows ∨ (filed, other) ∈ pairs rest := by
  simp only [mem_pairs_iff, List.mem_cons, exists_eq_or_imp]

/-- Filing a row adds its own pair. -/
theorem mem_pairs_file : (filed, other) ∈ pairs (file key id buckets) ↔
    (filed, other) ∈ pairs buckets ∨ filed = key ∧ other = id := by
  induction buckets with
  | nil => simp [file, pairs, single]
  | cons bucket rest ih =>
      rw [file]
      split
      · rename_i here
        have inside : other ∈ (bucket.add id).rows ↔ other ∈ bucket.rows ∨ other = id := by
          unfold add
          dsimp only
          split
          · rename_i present
            exact ⟨.inl, fun inside => inside.elim (fun kept => kept) fun same => same ▸ present⟩
          · rw [List.mem_cons, or_comm]
        rw [mem_cons_iff, mem_cons_iff, inside, ← here]
        change bucket.key = filed ∧ _ ∨ _ ↔ _
        grind
      · rw [mem_cons_iff, mem_cons_iff, ih, or_assoc]

/-- Taking a row out removes its own pair. -/
theorem mem_pairs_withdraw (differ : (keys buckets).Nodup) :
    (filed, other) ∈ pairs (withdraw key id buckets) ↔
      (filed, other) ∈ pairs buckets ∧ ¬(filed = key ∧ other = id) := by
  induction buckets with
  | nil => simp [withdraw, pairs]
  | cons bucket rest ih =>
      obtain ⟨fresh, differ'⟩ := List.nodup_cons.mp differ
      rw [withdraw]
      split
      · rename_i here
        have elsewhere : (filed, other) ∈ pairs rest → filed ≠ key := by
          rintro member rfl
          exact fresh (here ▸ mem_keys_iff.mpr ⟨other, member⟩)
        have left : (filed, other) ∈ pairs ((bucket.without? id).toList ++ rest) ↔
            bucket.key = filed ∧ other ∈ bucket.rows.erase id ∨ (filed, other) ∈ pairs rest := by
          unfold without?
          split
          · exact mem_cons_iff _ rest
          · rename_i empty
            rw [not_not.mp empty]
            simp
        rw [left, mem_cons_iff, bucket.distinct.mem_erase_iff]
        grind
      · rename_i elsewhere
        rw [mem_cons_iff, mem_cons_iff, ih differ']
        grind

/-- Buckets of different keys hold no pair twice. -/
theorem pairs_nodup (differ : (keys buckets).Nodup) : (pairs buckets).Nodup := by
  refine List.nodup_flatMap.mpr ⟨fun bucket _ => ?_, ?_⟩
  · exact bucket.distinct.map fun _ _ same => (Prod.mk.inj same).2
  · refine List.Pairwise.imp (fun {first second} unlike => ?_) (List.pairwise_map.mp differ)
    rintro ⟨key, id⟩ inside inside'
    obtain ⟨_, -, same⟩ := List.mem_map.mp inside
    obtain ⟨_, -, same'⟩ := List.mem_map.mp inside'
    exact unlike ((Prod.mk.inj same).1.trans (Prod.mk.inj same').1.symm)

/-- The filed rows are as many as the pairs. -/
theorem length_pairs : (pairs buckets).length = total buckets := by
  induction buckets with
  | nil => rfl
  | cons bucket rest ih => rw [pairs_cons, List.length_append, List.length_map, ih, total_cons]

/-- The bucket of a key holds the rows of all pairs with this key. -/
theorem rows_find? (differ : (keys buckets).Nodup) :
    ((find? buckets key).map rows).getD [] =
      ((pairs buckets).filter fun entry => entry.1 = key).map Prod.snd := by
  induction buckets with
  | nil => rfl
  | cons bucket rest ih =>
      obtain ⟨fresh, differ'⟩ := List.nodup_cons.mp differ
      rw [pairs_cons, List.filter_append, List.map_append]
      by_cases here : bucket.key = key
      · have elsewhere : ((pairs rest).filter fun entry => entry.1 = key) = [] := by
          refine List.filter_eq_nil_iff.mpr fun entry member same => fresh ?_
          exact mem_keys_iff.mpr ⟨entry.2, by rwa [here, ← of_decide_eq_true same]⟩
        rw [find?, List.find?_cons_of_pos (by exact decide_eq_true here), elsewhere]
        simp [here, List.filter_map, Function.comp_def]
      · have unfound : find? (bucket :: rest) key = find? rest key :=
          List.find?_cons_of_neg (by simpa using here)
        rw [unfound, ih differ']
        simp [here]

end Bucket

namespace Index

variable {index : Index} {view : RowId → Option Row} {rows : List (RowId × Row)}

/-- The pairs of a key and a row that an index holds. -/
def entries (index : Index) : List (Key × RowId) :=
  Bucket.pairs index.buckets

/-- An index files exactly the rows of a view that have a key, each once. -/
def Reflects (index : Index) (view : RowId → Option Row) : Prop :=
  ∀ key id, (key, id) ∈ index.entries ↔
    (view id).bind (fun row => row.key? index.position) = some key

/-- No row is filed twice under one key. -/
theorem entries_nodup (index : Index) : index.entries.Nodup :=
  Bucket.pairs_nodup index.keys_differ

/-- The counter of an index tells how many rows are filed. -/
theorem length_entries (index : Index) : index.entries.length = index.size :=
  Bucket.length_pairs.trans index.counted.symm

/-- The rows filed under a key are the second halves of the entries with this key. -/
theorem rowsUnder_eq (index : Index) (key : Key) : index.rowsUnder key =
    (index.entries.filter fun entry => entry.1 = key).map Prod.snd :=
  Bucket.rows_find? index.keys_differ

/-! ### Changes of an index -/

/-- The column of an index stays what it is. -/
structure SameColumn (index changed : Index) : Prop where
  column : changed.column = index.column
  position : changed.position = index.position

theorem SameColumn.trans {second third : Index} (first : SameColumn index second)
    (next : SameColumn second third) : SameColumn index third :=
  ⟨next.column.trans first.column, next.position.trans first.position⟩

/-- Filing a row leaves the column of the index as it is. -/
theorem insertRow_sameColumn (id : RowId) (row : Row) :
    SameColumn index (index.insertRow id row) := by
  unfold insertRow insert
  split
  · split <;> exact ⟨rfl, rfl⟩
  · exact ⟨rfl, rfl⟩

/-- Dropping a row leaves the column of the index as it is. -/
theorem removeRow_sameColumn (id : RowId) (row : Row) :
    SameColumn index (index.removeRow id row) := by
  unfold removeRow remove
  split
  · split <;> exact ⟨rfl, rfl⟩
  · exact ⟨rfl, rfl⟩

/-- Filing a row adds at most its own pair. -/
theorem mem_insertRow {id other : RowId} {row : Row} {key : Key} :
    (key, other) ∈ (index.insertRow id row).entries ↔
      (key, other) ∈ index.entries ∨ other = id ∧ row.key? index.position = some key := by
  unfold insertRow insert Row.key?
  cases row[index.position]? with
  | none => simp
  | some value =>
      cases keyed : Key.ofValue? value with
      | none => simp [keyed]
      | some filed =>
          simp only [keyed, entries, Bucket.mem_pairs_file, Option.bind_some, Option.some.injEq]
          rw [and_comm (a := key = filed), eq_comm (a := key)]

/-- Removing a row takes out at most its own pair. -/
theorem mem_removeRow {id other : RowId} {row : Row} {key : Key} :
    (key, other) ∈ (index.removeRow id row).entries ↔
      (key, other) ∈ index.entries ∧ ¬(other = id ∧ row.key? index.position = some key) := by
  unfold removeRow remove Row.key?
  cases row[index.position]? with
  | none => simp
  | some value =>
      cases keyed : Key.ofValue? value with
      | none => simp [keyed]
      | some filed =>
          simp only [keyed, entries, Bucket.mem_pairs_withdraw index.keys_differ, Option.bind_some,
            Option.some.injEq]
          rw [and_comm (a := key = filed), eq_comm (a := key)]

namespace Reflects

/-- Filing a row that the view did not have. -/
theorem insertRow (reflects : index.Reflects view) {id : RowId} (fresh : view id = none)
    (row : Row) : (index.insertRow id row).Reflects (Function.update view id (some row)) := by
  intro key other
  rw [mem_insertRow, reflects key other, (insertRow_sameColumn id row).position]
  by_cases here : other = id
  · subst here
    simp [fresh]
  · simp [here]

/-- Removing a row that the view had. -/
theorem removeRow (reflects : index.Reflects view) {id : RowId} {row : Row}
    (present : view id = some row) :
    (index.removeRow id row).Reflects (Function.update view id none) := by
  intro key other
  rw [mem_removeRow, reflects key other, (removeRow_sameColumn id row).position]
  by_cases here : other = id
  · subst here
    simp [present]
  · simp [here]

/-- A view that changes a row without changing its key is reflected already. -/
theorem congr_key (reflects : index.Reflects view) {id : RowId} {old new : Row}
    (present : view id = some old) (same : old.key? index.position = new.key? index.position) :
    index.Reflects (Function.update view id (some new)) := by
  intro key other
  rw [reflects key other]
  by_cases here : other = id
  · subst here
    simp [present, same]
  · rw [Function.update_of_ne here]

/-- Replacing a row that the view had by one that also has a cell in the
indexed column. -/
theorem replaceRow (reflects : index.Reflects view) {id : RowId} {old new : Row}
    (present : view id = some old) (oldWide : index.position < old.length)
    (newWide : index.position < new.length) :
    (index.replaceRow id old new).Reflects (Function.update view id (some new)) ∧
      SameColumn index (index.replaceRow id old new) := by
  have before : old[index.position]? = some old[index.position] := List.getElem?_eq_getElem oldWide
  have after : new[index.position]? = some new[index.position] := List.getElem?_eq_getElem newWide
  -- Cells that count as the same keep their entry, any other cell is taken out and filed anew.
  by_cases equal : (old[index.position]).same new[index.position] = true
  · have kept : index.replaceRow id old new = index := by
      simp only [Index.replaceRow, before, after, equal, ↓reduceIte]
    rw [kept]
    refine ⟨reflects.congr_key present ?_, ⟨rfl, rfl⟩⟩
    rw [Row.key?, Row.key?, before, after]
    exact Value.key_eq_of_same equal
  · have removed : SameColumn index (index.removeRow id old) := removeRow_sameColumn id old
    have refiled : index.replaceRow id old new = (index.removeRow id old).insertRow id new := by
      simp only [Index.replaceRow, Index.insertRow, Index.removeRow, before, after, equal,
        Bool.false_eq_true, ↓reduceIte]
      rw [Index.removeRow, before] at removed
      rw [removed.position, after]
    rw [refiled]
    refine ⟨?_, removed.trans (insertRow_sameColumn id new)⟩
    have stepwise := (reflects.removeRow present).insertRow (Function.update_self id none view) new
    rwa [Function.update_idem] at stepwise

end Reflects

theorem empty_reflects (column : String) (position : Nat) :
    (empty column position).Reflects fun _ => none := by
  simp [Reflects, empty, entries, Bucket.pairs]

/-- A row in front of others adds to the view what the others do not have. -/
theorem viewOf_cons_or {id : RowId} {row : Row} (absent : ∀ entry ∈ rows, entry.1 ≠ id)
    (view : RowId → Option Row) :
    (fun other => (viewOf ((id, row) :: rows) other).or (view other)) =
      fun other => (viewOf rows other).or (Function.update view id (some row) other) := by
  funext other
  rw [viewOf, lookup_cons_eq_ite]
  by_cases here : other = id
  · subst here
    have unfound : viewOf rows other = none :=
      List.lookup_eq_none_iff.mpr fun entry member => bne_iff_ne.mpr (absent entry member).symm
    simp [unfound]
  · rw [if_neg here, Function.update_of_ne here, viewOf]

/-- Filing ascending rows that the view did not have, one after the other. -/
theorem Reflects.insertRows (reflects : index.Reflects view) (ascending : Ascending rows)
    (fresh : ∀ entry ∈ rows, view entry.1 = none) :
    (rows.foldl (fun index entry => index.insertRow entry.1 entry.2) index).Reflects
        (fun id => (viewOf rows id).or (view id)) ∧
      SameColumn index
        (rows.foldl (fun index entry => index.insertRow entry.1 entry.2) index) := by
  -- The rows filed so far become part of the view, so the induction is over all views.
  induction rows generalizing index view with
  | nil => exact ⟨reflects, ⟨rfl, rfl⟩⟩
  | cons entry rest ih =>
      obtain ⟨id, row⟩ := entry
      obtain ⟨first, following⟩ := List.pairwise_cons.mp ascending
      have absent : ∀ entry ∈ rest, entry.1 ≠ id := fun entry member => (first entry member).ne'
      have fresh' : ∀ entry ∈ rest, Function.update view id (some row) entry.1 = none := by
        intro entry member
        rw [Function.update_of_ne (absent entry member)]
        exact fresh entry (List.mem_cons_of_mem _ member)
      have filed := reflects.insertRow (fresh (id, row) List.mem_cons_self) row
      obtain ⟨others, same⟩ := ih filed following fresh'
      rw [List.foldl_cons, viewOf_cons_or absent]
      exact ⟨others, (insertRow_sameColumn id row).trans same⟩

/-- An index built from rows reflects them. -/
theorem build_reflects (column : String) (position : Nat) (ascending : Ascending rows) :
    (build column position rows).Reflects (viewOf rows) ∧
      SameColumn (empty column position) (build column position rows) := by
  have built := (empty_reflects column position).insertRows ascending fun _ _ => rfl
  simp only [Option.or_none] at built
  exact built

/-! ### Answers of an index -/

/-- The pairs of a key and a row that rows give rise to, in their order. -/
def filings (position : Nat) (rows : List (RowId × Row)) : List (Key × RowId) :=
  rows.filterMap fun entry => (entry.2.key? position).map fun key => (key, entry.1)

/-- Rows in ascending order are filed in ascending order. -/
theorem filings_ascending (position : Nat) (ascending : Ascending rows) :
    (filings position rows).Pairwise fun earlier later => earlier.2 < later.2 := by
  refine List.pairwise_filterMap.mpr (List.Pairwise.imp (fun less => ?_) ascending)
  rintro first filed second filed'
  obtain ⟨_, -, rfl⟩ := Option.map_eq_some_iff.mp filed
  obtain ⟨_, -, rfl⟩ := Option.map_eq_some_iff.mp filed'
  exact less

/-- An index that reflects rows holds their pairs, in some order. -/
theorem Reflects.perm (reflects : index.Reflects (viewOf rows)) (ascending : Ascending rows) :
    index.entries.Perm (filings index.position rows) := by
  have nodup : (filings index.position rows).Nodup :=
    List.Pairwise.imp (fun less same => less.ne (congrArg Prod.snd same))
      (filings_ascending index.position ascending)
  refine (List.perm_ext_iff_of_nodup index.entries_nodup nodup).mpr ?_
  rintro ⟨key, id⟩
  rw [reflects key id, Option.bind_eq_some_iff, filings, List.mem_filterMap]
  constructor
  · rintro ⟨row, found, keyed⟩
    exact ⟨(id, row), ascending.lookup_eq_some_iff.mp found, by simp [keyed]⟩
  · rintro ⟨⟨other, row⟩, member, filed⟩
    obtain ⟨_, keyed, same⟩ := Option.map_eq_some_iff.mp filed
    obtain ⟨rfl, rfl⟩ := Prod.mk.inj same
    exact ⟨row, ascending.lookup_eq_some_iff.mpr member, keyed⟩

/-- Among the filings of rows, those under a key are the rows that have it, in their
order. -/
theorem rowsUnder_filings (position : Nat) (key : Key) (rows : List (RowId × Row)) :
    ((filings position rows).filter fun entry => entry.1 = key).map Prod.snd =
      (rows.filter fun entry => entry.2.key? position = some key).map Prod.fst := by
  induction rows with
  | nil => rfl
  | cons entry rest ih =>
      cases keyed : entry.2.key? position with
      | none => simpa [filings, keyed] using ih
      | some other =>
          by_cases same : other = key
          · simpa [filings, keyed, same] using ih
          · simpa [filings, keyed, same] using ih

/-- A look-up finds the rows whose cell has the key of the value, in ascending
order. -/
theorem Reflects.lookup_eq (reflects : index.Reflects (viewOf rows)) (ascending : Ascending rows)
    (value : Value) :
    index.lookup value =
      (rows.filter fun entry => entry.2.isUnder index.position value).map Prod.fst := by
  unfold lookup Row.isUnder
  cases Key.ofValue? value with
  | none => simp
  | some key =>
      have found : (index.rowsUnder key).Perm
          ((rows.filter fun entry => entry.2.key? index.position = some key).map Prod.fst) := by
        rw [← rowsUnder_filings, rowsUnder_eq]
        exact ((reflects.perm ascending).filter _).map _
      have increasing : ((rows.filter fun entry => entry.2.key? index.position = some key).map
          Prod.fst).Pairwise fun a b => decide (a ≤ b) = true :=
        List.pairwise_map.mpr (List.Pairwise.imp (fun less => decide_eq_true less.le)
          (ascending.filter _))
      refine List.Perm.eq_of_pairwise (fun a b _ _ below above => ?_)
        (List.pairwise_mergeSort ?_ ?_ _) increasing ((List.mergeSort_perm _ _).trans found)
      · exact Nat.le_antisymm (of_decide_eq_true below) (of_decide_eq_true above)
      · intro a b c below above
        exact decide_eq_true ((of_decide_eq_true below).trans (of_decide_eq_true above))
      · intro a b
        simpa using Nat.le_total a b

/-- An index knows a value exactly if some row has its key. -/
theorem contains_iff (reflects : index.Reflects view) (value : Value) :
    index.contains value = true ↔
      ∃ key id, Key.ofValue? value = some key ∧
        (view id).bind (fun row => row.key? index.position) = some key := by
  unfold contains
  cases Key.ofValue? value with
  | none => simp
  | some key =>
      rw [Bool.not_eq_true', List.isEmpty_eq_false_iff_exists_mem, rowsUnder_eq]
      simp only [List.mem_map, List.mem_filter, decide_eq_true_eq, Option.some.injEq]
      constructor
      · rintro ⟨id, ⟨filed, _⟩, ⟨member, rfl⟩, rfl⟩
        exact ⟨filed, _, rfl, (reflects filed _).mp member⟩
      · rintro ⟨_, id, rfl, keyed⟩
        exact ⟨id, (key, id), ⟨(reflects key id).mpr keyed, rfl⟩, rfl⟩

/-- The statistics count the rows that have a key, and their different keys. -/
theorem Reflects.statistics_eq (reflects : index.Reflects (viewOf rows))
    (ascending : Ascending rows) :
    index.statistics =
      ⟨(rows.filterMap fun entry => entry.2.key? index.position).dedup.length,
        rows.countP fun entry => (entry.2.key? index.position).isSome⟩ := by
  have perm := reflects.perm ascending
  have keys : (filings index.position rows).map Prod.fst =
      rows.filterMap fun entry => entry.2.key? index.position := by
    simp [filings, List.map_filterMap, Function.comp_def]
  have counted : (filings index.position rows).length =
      rows.countP fun entry => (entry.2.key? index.position).isSome := by
    rw [filings, List.length_filterMap_eq_countP]
    simp
  -- The buckets have the keys of the rows, each once.
  have distinct : (Bucket.keys index.buckets).Perm
      (rows.filterMap fun entry => entry.2.key? index.position).dedup := by
    refine (List.perm_ext_iff_of_nodup index.keys_differ (List.nodup_dedup _)).mpr fun key => ?_
    rw [List.mem_dedup, ← keys, ← (perm.map Prod.fst).mem_iff, Bucket.mem_keys_iff]
    simp [entries]
  have buckets : index.buckets.length = (Bucket.keys index.buckets).length :=
    (List.length_map _).symm
  rw [statistics, buckets, distinct.length_eq, ← index.length_entries, perm.length_eq, counted]

end Index

end Relational
