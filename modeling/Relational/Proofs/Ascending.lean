import Mathlib.Data.List.Nodup
import Mathlib.Data.String.Basic
import Relational.NameMap
import Relational.Table

/-!
# Entries in ascending order

Rows and name maps are lists of entries in ascending order of their keys.  Such
a list is determined by what its keys stand for, so a change of it is described
completely by the keys that it changes.
-/

namespace Relational

/-- The keys of a list of entries strictly increase. -/
def Ascending {κ α : Type} [LT κ] (entries : List (κ × α)) : Prop :=
  entries.Pairwise fun earlier later => earlier.1 < later.1

/-- Looking a key up goes by the first entry or past it. -/
theorem lookup_cons_eq_ite {κ α : Type} [DecidableEq κ] (other key : κ) (value : α)
    (rest : List (κ × α)) :
    ((other, value) :: rest).lookup key = if key = other then some value else rest.lookup key := by
  by_cases found : key = other
  · simp [found]
  · simp [List.lookup_cons, found, beq_eq_false_iff_ne.mpr found]

/-- Leaving out the entries of one key hides this key and no other. -/
theorem lookup_filter_ne {κ α : Type} [DecidableEq κ] (entries : List (κ × α)) (removed key : κ) :
    (entries.filter fun entry => entry.1 ≠ removed).lookup key =
      if key = removed then none else entries.lookup key := by
  induction entries with
  | nil => simp
  | cons entry rest ih =>
      obtain ⟨other, value⟩ := entry
      by_cases dropped : other = removed
      · subst dropped
        rw [List.filter_cons_of_neg (by simp), ih, lookup_cons_eq_ite]
        split <;> rfl
      · rw [List.filter_cons_of_pos (by simpa using dropped), lookup_cons_eq_ite, ih,
          lookup_cons_eq_ite]
        split
        · rename_i found
          rw [if_neg (found ▸ dropped)]
        · rfl

/-- A change of values under a key is seen under that key only. -/
theorem lookup_map_at {κ α : Type} [DecidableEq κ] (entries : List (κ × α)) (changed key : κ)
    (value : α) :
    (entries.map fun entry => if entry.1 = changed then (changed, value) else entry).lookup key =
      (entries.lookup key).map fun kept => if key = changed then value else kept := by
  induction entries with
  | nil => simp
  | cons entry rest ih =>
      obtain ⟨other, kept⟩ := entry
      rw [List.map_cons, lookup_cons_eq_ite]
      by_cases here : other = changed
      · subst here
        rw [if_pos rfl, lookup_cons_eq_ite, ih]
        by_cases found : key = other <;> simp [found]
      · rw [if_neg here, lookup_cons_eq_ite, ih]
        by_cases found : key = other <;> simp [found, here]

namespace Ascending

variable {κ α : Type} [LinearOrder κ] {entries others : List (κ × α)} {entry first : κ × α}

theorem keys_nodup (ascending : Ascending entries) : (entries.map Prod.fst).Nodup :=
  List.pairwise_map.mpr (List.Pairwise.imp (fun less => less.ne) ascending)

theorem nodup (ascending : Ascending entries) : entries.Nodup :=
  List.Nodup.of_map Prod.fst ascending.keys_nodup

/-- The entries are exactly what a look-up finds. -/
theorem lookup_eq_some_iff (ascending : Ascending entries) {key : κ} {value : α} :
    entries.lookup key = some value ↔ (key, value) ∈ entries := by
  induction entries with
  | nil => simp
  | cons entry rest ih =>
      obtain ⟨other, kept⟩ := entry
      obtain ⟨first, following⟩ := List.pairwise_cons.mp ascending
      by_cases found : key = other
      · subst found
        have absent : (key, value) ∉ rest := fun member => lt_irrefl key (first (key, value) member)
        simp [absent, eq_comm]
      · rw [lookup_cons_eq_ite, if_neg found, ih following]
        simp [found]

/-- Entries in ascending order are determined by their look-ups. -/
theorem ext (ascending : Ascending entries) (ascending' : Ascending others)
    (same : ∀ key, entries.lookup key = others.lookup key) : entries = others := by
  refine List.Perm.eq_of_pairwise (fun first second _ _ less more => ?_) ascending ascending'
    ((List.perm_ext_iff_of_nodup ascending.nodup ascending'.nodup).mpr ?_)
  · exact absurd more less.asymm
  · rintro ⟨key, value⟩
    rw [← ascending.lookup_eq_some_iff, ← ascending'.lookup_eq_some_iff, same]

theorem filter (ascending : Ascending entries) (keep : κ × α → Bool) :
    Ascending (entries.filter keep) :=
  List.Pairwise.filter keep ascending

/-- Values may change as long as every entry keeps its key. -/
theorem map {β : Type} (ascending : Ascending entries) (change : κ × α → κ × β)
    (keeps : ∀ entry, (change entry).1 = entry.1) : Ascending (entries.map change) := by
  refine List.pairwise_map.mpr (List.Pairwise.imp (fun less => ?_) ascending)
  rwa [keeps, keeps]

/-- An entry with a smaller key than the first one may stand in front of it. -/
theorem cons (ascending : Ascending (first :: entries)) (before : entry.1 < first.1) :
    Ascending (entry :: first :: entries) := by
  refine List.pairwise_cons.mpr ⟨fun later member => ?_, ascending⟩
  rcases List.mem_cons.mp member with same | behind
  · rw [same]
    exact before
  · exact before.trans ((List.pairwise_cons.mp ascending).1 later behind)

/-- An entry with a greater key than the first one may be added behind it. -/
theorem added (ascending : Ascending (first :: entries)) {key : κ} (after : first.1 < key)
    (only : ∀ entry ∈ others, entry.1 = key ∨ entry ∈ entries) (behind : Ascending others) :
    Ascending (first :: others) := by
  refine List.pairwise_cons.mpr ⟨fun later member => ?_, behind⟩
  rcases only later member with same | kept
  · rw [same]
    exact after
  · exact (List.pairwise_cons.mp ascending).1 later kept

end Ascending

/-! ### Name maps -/

namespace NameMap

variable {α β : Type}

/-- The names of a map strictly increase. -/
def Ordered (map : NameMap α) : Prop :=
  Ascending map.entries

/-- An inserted entry is found under its name, and the others as before. -/
theorem lookup_insertEntry (name other : String) (value : α) (entries : List (String × α)) :
    (insertEntry name value entries).lookup other =
      if other = name then some value else entries.lookup other := by
  fun_induction insertEntry name value entries with
  | case1 => rw [lookup_cons_eq_ite]
  | case2 =>
      simp only [lookup_cons_eq_ite]
      split <;> rfl
  | case3 => simp only [lookup_cons_eq_ite]
  | case4 earlier kept rest different _ ih =>
      rw [lookup_cons_eq_ite, lookup_cons_eq_ite, ih]
      by_cases found : other = earlier
      · rw [if_pos found, if_pos found, if_neg (found ▸ Ne.symm different)]
      · rw [if_neg found, if_neg found]

/-- A map with an entry has it under its name, and the others as before. -/
@[simp] theorem get?_insert (map : NameMap α) (name other : String) (value : α) :
    (map.insert name value).get? other = if other = name then some value else map.get? other :=
  lookup_insertEntry name other value map.entries

/-- Inserting an entry adds no name but its own. -/
theorem insertEntry_names (name : String) (value : α) (entries : List (String × α)) :
    ∀ entry ∈ insertEntry name value entries, entry.1 = name ∨ entry ∈ entries := by
  fun_induction insertEntry name value entries with
  | case1 => simp
  | case2 => simp_all
  | case3 => simp_all
  | case4 other kept rest different after ih =>
      intro entry member
      rcases List.mem_cons.mp member with same | later
      · exact Or.inr (same ▸ List.mem_cons_self)
      · exact (ih entry later).imp_right (List.mem_cons_of_mem _)

/-- Inserting an entry keeps the order of the names. -/
theorem insertEntry_ascending (name : String) (value : α) (entries : List (String × α)) :
    Ascending entries → Ascending (insertEntry name value entries) := by
  fun_induction insertEntry name value entries with
  | case1 => simp [Ascending]
  | case2 kept rest =>
      intro ascending
      obtain ⟨first, following⟩ := List.pairwise_cons.mp ascending
      exact List.pairwise_cons.mpr ⟨first, following⟩
  | case3 other kept rest different before => exact fun ascending => ascending.cons before
  | case4 other kept rest different before ih =>
      intro ascending
      have after : other < name := lt_of_le_of_ne (not_lt.mp before) (Ne.symm different)
      exact ascending.added after (insertEntry_names name value rest)
        (ih (List.pairwise_cons.mp ascending).2)

namespace Ordered

variable {map : NameMap α}

theorem empty : Ordered (NameMap.empty : NameMap α) :=
  List.Pairwise.nil

theorem insert (ordered : map.Ordered) (name : String) (value : α) :
    (map.insert name value).Ordered :=
  insertEntry_ascending name value map.entries ordered

theorem erase (ordered : map.Ordered) (name : String) : (map.erase name).Ordered :=
  Ascending.filter ordered _

theorem get?_eq_some_iff (ordered : map.Ordered) {name : String} {value : α} :
    map.get? name = some value ↔ (name, value) ∈ map.entries :=
  Ascending.lookup_eq_some_iff ordered

end Ordered

/-- A map without an entry finds nothing under its name, and the others as before. -/
@[simp] theorem get?_erase (map : NameMap α) (name other : String) :
    (map.erase name).get? other = if other = name then none else map.get? other :=
  lookup_filter_ne map.entries name other

/-- A map built from any entries is in order, whatever the order of the
entries. -/
theorem ofList_ordered (entries : List (String × α)) : (ofList entries).Ordered := by
  have extended : ∀ (map : NameMap α), map.Ordered →
      (entries.foldl (fun built entry => built.insert entry.1 entry.2) map).Ordered := by
    induction entries with
    | nil => exact fun _ ordered => ordered
    | cons entry rest ih => exact fun map ordered => ih _ (ordered.insert entry.1 entry.2)
  exact extended _ Ordered.empty

end NameMap

/-! ### Rows -/

namespace Table

/-- A row that is inserted in its place is found under its identity, and the others as
before. -/
theorem lookup_insertOrdered (id other : RowId) (row : Row) (rows : List (RowId × Row)) :
    (insertOrdered id row rows).lookup other =
      if other = id then some row else rows.lookup other := by
  fun_induction insertOrdered id row rows with
  | case1 => rw [lookup_cons_eq_ite]
  | case2 => simp only [lookup_cons_eq_ite]
  | case3 =>
      simp only [lookup_cons_eq_ite]
      split <;> rfl
  | case4 earlier kept rest _ different ih =>
      rw [lookup_cons_eq_ite, lookup_cons_eq_ite, ih]
      by_cases found : other = earlier
      · rw [if_pos found, if_pos found, if_neg (found ▸ Ne.symm different)]
      · rw [if_neg found, if_neg found]

/-- Inserting a row adds no identity but its own. -/
theorem insertOrdered_ids (id : RowId) (row : Row) (rows : List (RowId × Row)) :
    ∀ entry ∈ insertOrdered id row rows, entry = (id, row) ∨ entry ∈ rows := by
  fun_induction insertOrdered id row rows with
  | case1 => simp
  | case2 => simp_all
  | case3 => simp_all
  | case4 other kept rest before different ih =>
      intro entry member
      rcases List.mem_cons.mp member with same | later
      · exact Or.inr (same ▸ List.mem_cons_self)
      · exact (ih entry later).imp_right (List.mem_cons_of_mem _)

/-- Inserting a row in its place keeps the order of the identities. -/
theorem insertOrdered_ascending (id : RowId) (row : Row) (rows : List (RowId × Row)) :
    Ascending rows → Ascending (insertOrdered id row rows) := by
  fun_induction insertOrdered id row rows with
  | case1 => simp [Ascending]
  | case2 other kept rest before => exact fun ascending => ascending.cons before
  | case3 other kept rest =>
      intro ascending
      obtain ⟨first, following⟩ := List.pairwise_cons.mp ascending
      exact List.pairwise_cons.mpr ⟨first, following⟩
  | case4 other kept rest before different ih =>
      intro ascending
      have after : other < id := lt_of_le_of_ne (not_lt.mp before) (Ne.symm different)
      have only : ∀ entry ∈ insertOrdered id row rest, entry.1 = id ∨ entry ∈ rest :=
        fun entry member =>
          (insertOrdered_ids id row rest entry member).imp_left (congrArg Prod.fst)
      exact ascending.added after only (ih (List.pairwise_cons.mp ascending).2)

/-- A row above all others comes last. -/
theorem insertOrdered_of_below {id : RowId} {row : Row} {rows : List (RowId × Row)}
    (below : ∀ entry ∈ rows, entry.1 < id) : insertOrdered id row rows = rows ++ [(id, row)] := by
  induction rows with
  | nil => rfl
  | cons entry rest ih =>
      have first : entry.1 < id := below entry List.mem_cons_self
      rw [insertOrdered, if_neg first.asymm, if_neg first.ne',
        ih fun other member => below other (List.mem_cons_of_mem _ member)]
      rfl

end Table

end Relational
