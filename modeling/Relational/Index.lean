import Relational.Value.Key

/-!
# Indexes

An index on a column answers which rows hold a given value there.  The rows of a
key are kept together, none of them twice, and a key is forgotten with its last
row.  Nulls are not filed at all.  The filed rows are counted along.
-/

namespace Relational

/-- What an index knows about its size. -/
structure IndexStatistics where
  distinctKeys : Nat
  entries : Nat
deriving DecidableEq, Repr

/-- The rows filed under one key: at least one, and none twice. -/
structure Bucket where
  key : Key
  rows : List RowId
  nonempty : rows ≠ []
  distinct : rows.Nodup
deriving DecidableEq

namespace Bucket

/-- The bucket of the first row under a key. -/
def single (key : Key) (id : RowId) : Bucket where
  key := key
  rows := [id]
  nonempty := List.cons_ne_nil _ _
  distinct := List.pairwise_singleton _ _

/-- The bucket with a row, which may be in it already. -/
def add (bucket : Bucket) (id : RowId) : Bucket where
  key := bucket.key
  rows := if id ∈ bucket.rows then bucket.rows else id :: bucket.rows
  nonempty := by
    split
    · exact bucket.nonempty
    · exact List.cons_ne_nil _ _
  distinct := by
    split
    · exact bucket.distinct
    · rename_i absent
      exact List.nodup_cons.mpr ⟨absent, bucket.distinct⟩

/-- The bucket without a row, if any other one is left. -/
def without? (bucket : Bucket) (id : RowId) : Option Bucket :=
  if nonempty : bucket.rows.erase id ≠ [] then
    some ⟨bucket.key, bucket.rows.erase id, nonempty, bucket.distinct.erase id⟩
  else none

/-! ### Lists of buckets -/

/-- The bucket of a key. -/
def find? (buckets : List Bucket) (key : Key) : Option Bucket :=
  buckets.find? fun bucket => bucket.key = key

/-- Whether a row is filed under a key. -/
def files (buckets : List Bucket) (key : Key) (id : RowId) : Bool :=
  (find? buckets key).any fun bucket => bucket.rows.contains id

/-- How many rows are filed in buckets. -/
def total (buckets : List Bucket) : Nat :=
  buckets.foldr (fun bucket others => bucket.rows.length + others) 0

/-- File a row under a key. -/
def file (key : Key) (id : RowId) : List Bucket → List Bucket
  | [] => [single key id]
  | bucket :: rest =>
    if bucket.key = key then bucket.add id :: rest else bucket :: file key id rest

/-- Take a row out from under a key. -/
def withdraw (key : Key) (id : RowId) : List Bucket → List Bucket
  | [] => []
  | bucket :: rest =>
    if bucket.key = key then (bucket.without? id).toList ++ rest
    else bucket :: withdraw key id rest

/-- The keys of buckets. -/
def keys (buckets : List Bucket) : List Key :=
  buckets.map Bucket.key

variable {buckets : List Bucket} {key other : Key} {id : RowId}

/-- The keys after a row was filed are those before and its own. -/
theorem mem_keys_file :
    other ∈ keys (file key id buckets) ↔ other = key ∨ other ∈ keys buckets := by
  induction buckets with
  | nil => exact List.mem_singleton.trans ⟨.inl, fun same => same.resolve_right nofun⟩
  | cons bucket rest ih =>
      unfold file
      split
      · rename_i here
        change other ∈ bucket.key :: keys rest ↔ other = key ∨ other ∈ bucket.key :: keys rest
        rw [here, List.mem_cons, or_self_left]
      · change other ∈ bucket.key :: keys (file key id rest) ↔ _ ∨ other ∈ bucket.key :: keys rest
        rw [List.mem_cons, List.mem_cons, ih, or_left_comm]

/-- Filing a row keeps the keys of the buckets apart. -/
theorem keys_file_nodup (differ : (keys buckets).Nodup) : (keys (file key id buckets)).Nodup := by
  induction buckets with
  | nil => exact List.pairwise_singleton _ _
  | cons bucket rest ih =>
      obtain ⟨fresh, differ'⟩ := List.nodup_cons.mp differ
      unfold file
      split
      · exact differ
      · rename_i elsewhere
        refine List.nodup_cons.mpr ⟨fun member => ?_, ih differ'⟩
        exact (mem_keys_file.mp member).elim elsewhere fresh

/-- Taking a row out leaves the other keys alone. -/
theorem keys_withdraw_sublist : (keys (withdraw key id buckets)).Sublist (keys buckets) := by
  induction buckets with
  | nil => exact .refl _
  | cons bucket rest ih =>
      unfold withdraw
      split
      · unfold without?
        split
        · exact .refl _
        · exact List.sublist_cons_self _ _
      · exact ih.cons_cons bucket.key

theorem total_cons (bucket : Bucket) (rest : List Bucket) :
    total (bucket :: rest) = bucket.rows.length + total rest :=
  rfl

/-- Only the bucket of a key tells whether a row is filed under it. -/
theorem files_cons (bucket : Bucket) (rest : List Bucket) : files (bucket :: rest) key id =
    if bucket.key = key then bucket.rows.contains id else files rest key id := by
  unfold files find?
  split
  · rename_i here
    rw [List.find?_cons_of_pos (by exact decide_eq_true here)]
    rfl
  · rename_i elsewhere
    rw [List.find?_cons_of_neg (by simpa using elsewhere)]

/-- A row is counted when it is filed, unless it was filed before. -/
theorem total_file : total (file key id buckets) =
    if files buckets key id then total buckets else total buckets + 1 := by
  induction buckets with
  | nil => rfl
  | cons bucket rest ih =>
      rw [file, files_cons]
      by_cases here : bucket.key = key
      · rw [if_pos here, if_pos here, total_cons, total_cons]
        by_cases present : id ∈ bucket.rows
        · simp [add, present]
        · simp [add, present]
          omega
      · rw [if_neg here, if_neg here, total_cons, total_cons, ih]
        split <;> omega

/-- The count that goes along with filing a row stays the number of filed rows. -/
theorem counted_file {size : Nat} (counted : size = total buckets) :
    (if files buckets key id then size else size + 1) = total (file key id buckets) := by
  rw [total_file, counted]

/-- A row that was filed is no longer counted when it has been taken out. -/
theorem total_withdraw :
    total (withdraw key id buckets) + (if files buckets key id then 1 else 0) = total buckets := by
  induction buckets with
  | nil => rfl
  | cons bucket rest ih =>
      rw [withdraw, files_cons]
      by_cases here : bucket.key = key
      · rw [if_pos here, if_pos here]
        have left : total ((bucket.without? id).toList ++ rest) =
            (bucket.rows.erase id).length + total rest := by
          unfold without?
          split
          · rfl
          · rename_i empty
            rw [Decidable.not_not.mp empty]
            exact (Nat.zero_add _).symm
        have length := List.length_erase (a := id) (l := bucket.rows)
        have some := List.length_pos_iff.mpr bucket.nonempty
        rw [left, total_cons]
        by_cases present : id ∈ bucket.rows
        · rw [if_pos present] at length
          rw [if_pos (List.contains_iff_mem.mpr present)]
          omega
        · rw [if_neg present] at length
          rw [if_neg (mt List.contains_iff_mem.mp present), length]
          omega
      · rw [if_neg here, if_neg here, total_cons, total_cons]
        omega

/-- The count that goes along with taking a row out stays the number of filed rows. -/
theorem counted_withdraw {size : Nat} (counted : size = total buckets) :
    (if files buckets key id then size - 1 else size) = total (withdraw key id buckets) := by
  have left := @total_withdraw buckets key id
  split
  · rename_i filed
    rw [if_pos filed] at left
    omega
  · rename_i unfiled
    rw [if_neg unfiled] at left
    omega

end Bucket

/-- An index on the column at a position. -/
structure Index where
  column : String
  position : Nat
  /-- The rows of each key. -/
  buckets : List Bucket
  keys_differ : (Bucket.keys buckets).Nodup
  /-- How many rows are filed, which is counted as they come and go. -/
  size : Nat
  counted : size = Bucket.total buckets
deriving DecidableEq

namespace Index

/-- The index without rows. -/
def empty (column : String) (position : Nat) : Index where
  column := column
  position := position
  buckets := []
  keys_differ := List.nodup_nil
  size := 0
  counted := rfl

/-- File a row under a value. -/
def insert (index : Index) (id : RowId) (value : Value) : Index :=
  match Key.ofValue? value with
  | none => index
  | some key =>
    { index with
      buckets := Bucket.file key id index.buckets
      keys_differ := Bucket.keys_file_nodup index.keys_differ
      size := if Bucket.files index.buckets key id then index.size else index.size + 1
      counted := Bucket.counted_file index.counted }

/-- Take a row out from under a value. -/
def remove (index : Index) (id : RowId) (value : Value) : Index :=
  match Key.ofValue? value with
  | none => index
  | some key =>
    { index with
      buckets := Bucket.withdraw key id index.buckets
      keys_differ := index.keys_differ.sublist Bucket.keys_withdraw_sublist
      size := if Bucket.files index.buckets key id then index.size - 1 else index.size
      counted := Bucket.counted_withdraw index.counted }

/-- The rows filed under a key. -/
def rowsUnder (index : Index) (key : Key) : List RowId :=
  ((Bucket.find? index.buckets key).map Bucket.rows).getD []

/-- The rows filed under a value, in ascending order. -/
def lookup (index : Index) (value : Value) : List RowId :=
  match Key.ofValue? value with
  | none => []
  | some key => (index.rowsUnder key).mergeSort fun a b => a ≤ b

/-- Whether any row is filed under a value. -/
def contains (index : Index) (value : Value) : Bool :=
  match Key.ofValue? value with
  | none => false
  | some key => !(index.rowsUnder key).isEmpty

/-- The number of keys and of filed rows. -/
def statistics (index : Index) : IndexStatistics where
  distinctKeys := index.buckets.length
  entries := index.size

/-- File a row under the value that it holds in the indexed column. -/
def insertRow (index : Index) (id : RowId) (row : Row) : Index :=
  match row[index.position]? with
  | some value => index.insert id value
  | none => index

/-- Take a row out from under the value that it holds in the indexed column. -/
def removeRow (index : Index) (id : RowId) (row : Row) : Index :=
  match row[index.position]? with
  | some value => index.remove id value
  | none => index

/-- File a changed row under its new value, unless that is the old one. -/
def replaceRow (index : Index) (id : RowId) (old new : Row) : Index :=
  match old[index.position]?, new[index.position]? with
  | some before, some after =>
    if before.same after then index else (index.remove id before).insert id after
  | _, _ => index

/-- The index on a column of existing rows. -/
def build (column : String) (position : Nat) (rows : List (RowId × Row)) : Index :=
  rows.foldl (fun index entry => index.insertRow entry.1 entry.2) (empty column position)

end Index

end Relational
