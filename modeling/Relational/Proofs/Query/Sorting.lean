import Relational.Proofs.Query.Resolution
import Relational.Proofs.Value.SortOrder

/-!
# Sorted results

Sorting keeps the rows of a result and puts them into the order of their criteria,
each in its own direction.  Rows without a difference stay in the order in which
they came, which fixes the result even where the criteria do not.  All of this
takes an order that is transitive on the keys at hand: among values without a NaN,
of which not some are integers and others floats, it is.
-/

namespace Relational

/-! ### Stable sorting -/

section StableSorting

variable {α : Type} {le : α → α → Bool} {items : List α}

/-- The order matters only for the items of the list. -/
theorem mergeSort_eq_map_attach :
    items.mergeSort le = (items.attach.mergeSort fun a b => le a.1 b.1).map Subtype.val := by
  rw [List.map_mergeSort (s := le) fun _ _ _ _ => rfl, List.attach_map_subtype_val]

variable (transitive : ∀ a ∈ items, ∀ b ∈ items, ∀ c ∈ items,
    le a b = true → le b c = true → le a c = true)
  (total : ∀ a b, (le a b || le b a) = true)

include transitive total

/-- A sorted list is in order if the order is transitive and total on its items. -/
theorem pairwise_mergeSort_of_mem :
    (items.mergeSort le).Pairwise fun a b => le a b = true := by
  rw [mergeSort_eq_map_attach, List.pairwise_map]
  apply List.pairwise_mergeSort
  · exact fun a b c => transitive a a.2 b b.2 c c.2
  · exact fun a b => total a b

/-- Items that are in order both ways keep the order in which they came. -/
theorem filter_mergeSort_of_mem {chosen : α → Bool}
    (tied : ∀ a ∈ items, ∀ b ∈ items, chosen a = true → chosen b = true → le a b = true) :
    (items.mergeSort le).filter chosen = items.filter chosen := by
  have ordered : (items.attach.filter fun a => chosen a.1).Pairwise
      fun a b => le a.1 b.1 = true := by
    apply List.pairwise_of_forall_mem_list
    intro a left b right
    exact tied a a.2 b b.2 (List.mem_filter.mp left).2 (List.mem_filter.mp right).2
  have inside : (items.attach.filter fun a => chosen a.1).Sublist
      (items.attach.mergeSort fun a b => le a.1 b.1) := by
    apply List.sublist_mergeSort
    · exact fun a b c => transitive a a.2 b b.2 c c.2
    · exact fun a b => total a b
    · exact ordered
    · exact List.filter_sublist
  have kept : (items.filter chosen).Sublist (items.mergeSort le) := by
    have values : (items.attach.filter fun a => chosen a.1).map Subtype.val =
        items.filter chosen := by
      rw [← List.attach_map_subtype_val items, List.filter_map, List.attach_map_subtype_val]
      rfl
    rw [mergeSort_eq_map_attach, ← values]
    exact inside.map Subtype.val
  symm
  apply List.Sublist.eq_of_length
  · simpa only [List.filter_filter, Bool.and_self] using kept.filter chosen
  · exact ((List.mergeSort_perm items le).filter chosen).length_eq.symm

end StableSorting

/-! ### Values in one direction -/

/-- Along a chain that never goes back, the ends differ as the first two neighbours
that differ. -/
def Chained (first second ends : Ordering) : Prop :=
  first ≠ .gt → second ≠ .gt → ends = first.then second

namespace Chained

variable {first second ends first' second' ends' : Ordering}

/-- A second criterion decides where the first one does not. -/
theorem lex (head : Chained first second ends) (tail : Chained first' second' ends') :
    Chained (first.then first') (second.then second') (ends.then ends') := by
  intro forward onward
  unfold Chained at head tail
  cases first <;> cases second <;> simp_all
  cases first' <;> simp_all

/-- A chain of three can be read with its first two comparisons exchanged. -/
theorem flip (chained : Chained first second ends) : Chained second first ends := by
  intro onward forward
  rw [chained forward onward]
  cases first <;> cases second <;> simp_all

theorem ne_gt (chained : Chained first second ends) (forward : first ≠ .gt)
    (onward : second ≠ .gt) : ends ≠ .gt := by
  rw [chained forward onward]
  cases first <;> simp_all

end Chained

section Orders

variable {α : Type} {order : α → α → Ordering} {items : List α}

/-- An order of which all chains are regular is transitive. -/
theorem transitive_of_chained (order : α → α → Ordering)
    (chained : ∀ a ∈ items, ∀ b ∈ items, ∀ c ∈ items,
      Chained (order a b) (order b c) (order a c)) :
    ∀ a ∈ items, ∀ b ∈ items, ∀ c ∈ items, (order a b != .gt) = true →
      (order b c != .gt) = true → (order a c != .gt) = true := by
  intro a left b middle c right forward onward
  rw [bne_iff_ne] at forward onward ⊢
  exact (chained a left b middle c right).ne_gt forward onward

/-- An order that is reversed by exchanging its sides is total. -/
theorem total_of_swap (swap : ∀ a b, order b a = (order a b).swap) (a b : α) :
    ((order a b != .gt) || (order b a != .gt)) = true := by
  rw [swap a b]
  cases order a b <;> rfl

end Orders

namespace Value

/-- Values among which there is no NaN, and which are not integers in part and
floats in part. -/
structure Sortable (values : List Value) : Prop where
  numbers : ∀ value ∈ values, value.isNaN = false
  unmixed : ∀ n x, Value.integer n ∈ values → Value.float x ∉ values

/-- The order of two values in an ascending or a descending column. -/
def directed (ascending : Bool) (a b : Value) : Ordering :=
  if ascending then a.sortCompare b else b.sortCompare a

variable {values : List Value} {a b c : Value} {ascending : Bool}

/-- A descending column reverses the order. -/
theorem directed_eq (ascending : Bool) (a b : Value) : directed ascending a b =
    if ascending then a.sortCompare b else (a.sortCompare b).swap := by
  rw [directed, sortCompare_swap a b]

/-- Exchanging the two sides reverses the order. -/
theorem directed_swap (ascending : Bool) (a b : Value) :
    directed ascending b a = (directed ascending a b).swap := by
  cases ascending with
  | true => exact sortCompare_swap a b
  | false => exact sortCompare_swap b a

theorem directed_self (ascending : Bool) (a : Value) : directed ascending a a = .eq := by
  rw [directed, ite_self, sortCompare_self]

theorem directed_eq_iff : directed ascending a b = .eq ↔ a.sortCompare b = .eq := by
  rw [directed_eq]
  cases ascending <;> simp

/-- A value precedes another one if it is less, or greater in a descending column. -/
theorem directed_lt_iff :
    directed ascending a b = .lt ↔ a.sortCompare b = if ascending then .lt else .gt := by
  rw [directed_eq]
  cases ascending <;> simp

/-- Values neither of which comes behind the other are level. -/
theorem directed_eq_of_ne_gt (forward : directed ascending a b ≠ .gt)
    (back : directed ascending b a ≠ .gt) : directed ascending a b = .eq := by
  rw [directed_swap ascending a b] at back
  revert forward back
  cases directed ascending a b <;> simp

namespace Sortable

/-- Values that one column may hold. -/
theorem of_fits {type : ColumnType} (fits : ∀ value ∈ values, value.Fits type)
    (numbers : ∀ value ∈ values, value.isNaN = false) : Sortable values := by
  refine ⟨numbers, fun n x integer float => ?_⟩
  cases (fits _ integer).symm.trans (fits _ float)

variable (sortable : Sortable values)

include sortable

theorem sublist {fewer : List Value} (inside : fewer.Sublist values) : Sortable fewer where
  numbers value member := sortable.numbers value (inside.subset member)
  unmixed n x member member' := sortable.unmixed n x (inside.subset member) (inside.subset member')

/-- No value blurs others if all of them can be sorted. -/
theorem not_blurs (left : a ∈ values) (middle : b ∈ values) : ¬ Blurs b a c := by
  intro blurs
  cases blurs with
  | undefined nan _ _ =>
      have number := sortable.numbers _ middle
      exact Bool.false_ne_true (number.symm.trans nan)
  | nearest _ _ _ => exact sortable.unmixed _ _ left middle

/-- The order of values that can be sorted is regular along chains. -/
theorem sortCompare_chained (left : a ∈ values) (middle : b ∈ values) (right : c ∈ values) :
    Chained (a.sortCompare b) (b.sortCompare c) (a.sortCompare c) := by
  intro forward onward
  have far := sortCompare_trans (sortable.not_blurs left middle) forward onward
  have even : a.sortCompare b = .eq → b.sortCompare c = .eq → a.sortCompare c = .eq :=
    sortCompare_trans_eq (sortable.not_blurs left middle)
  -- If the ends were equal, the chain could be walked back.
  have back : a.sortCompare c = .eq → b.sortCompare a ≠ .gt ∧ c.sortCompare b ≠ .gt := by
    intro same
    have same' : c.sortCompare a ≠ .gt := by simp [sortCompare_swap a c, same]
    constructor
    · exact sortCompare_trans (sortable.not_blurs middle right) onward same'
    · exact sortCompare_trans (sortable.not_blurs right left) same' forward
  rw [sortCompare_swap a b, sortCompare_swap b c] at back
  revert far back even forward onward
  cases a.sortCompare b <;> cases b.sortCompare c <;> cases a.sortCompare c <;> simp

/-- The order in a column is regular along chains of values that can be sorted. -/
theorem directed_chained (ascending : Bool) (left : a ∈ values) (middle : b ∈ values)
    (right : c ∈ values) :
    Chained (directed ascending a b) (directed ascending b c) (directed ascending a c) := by
  cases ascending with
  | true => exact sortable.sortCompare_chained left middle right
  | false => exact (sortable.sortCompare_chained right middle left).flip

/-- The order in a column is transitive on values that can be sorted. -/
theorem transitive (ascending : Bool) : ∀ a ∈ values, ∀ b ∈ values, ∀ c ∈ values,
    (directed ascending a b != .gt) = true → (directed ascending b c != .gt) = true →
      (directed ascending a c != .gt) = true :=
  transitive_of_chained (directed ascending)
    fun _ left _ middle _ right => sortable.directed_chained ascending left middle right

/-- Values that can be sorted are in order after sorting. -/
theorem pairwise_mergeSort (ascending : Bool) :
    (values.mergeSort fun a b => directed ascending a b != .gt).Pairwise
      fun a b => (directed ascending a b != .gt) = true :=
  pairwise_mergeSort_of_mem (sortable.transitive ascending)
    (total_of_swap (directed_swap ascending))

end Sortable

end Value

namespace OutputRow

variable {items : List SortItem} {item : SortItem} {xs ys zs : List Value} {x y : Value}

/-! ### Lists of keys -/

/-- Lists of keys are compared by their first keys, and by the others if these are level. -/
theorem compareBy_cons (item : SortItem) (items : List SortItem) (x y : Value)
    (xs ys : List Value) : compareBy (item :: items) (x :: xs) (y :: ys) =
      (Value.directed item.ascending x y).then (compareBy items xs ys) := by
  rw [compareBy, Value.directed_eq]

/-- Exchanging the two lists of keys reverses their order. -/
theorem compareBy_swap (items : List SortItem) (xs ys : List Value) :
    compareBy items ys xs = (compareBy items xs ys).swap := by
  induction items generalizing xs ys with
  | nil => rfl
  | cons item items ih =>
      cases xs with
      | nil => cases ys <;> rfl
      | cons x xs =>
          cases ys with
          | nil => rfl
          | cons y ys =>
              rw [compareBy_cons, compareBy_cons, Ordering.swap_then, ih,
                Value.directed_swap item.ascending x y]

/-- Two lists of keys differ in no criterion. -/
def Tied (items : List SortItem) (xs ys : List Value) : Prop :=
  ∀ position x y, position < items.length → xs[position]? = some x → ys[position]? = some y →
    x.sortCompare y = .eq

/-- A list of keys comes before another one: in the first criterion in which they
differ it has the lesser key, or the greater one if this criterion is descending. -/
def Precedes (items : List SortItem) (xs ys : List Value) : Prop :=
  ∃ position item x y, items[position]? = some item ∧ xs[position]? = some x ∧
    ys[position]? = some y ∧ Tied (items.take position) xs ys ∧
    x.sortCompare y = if item.ascending then .lt else .gt

/-- Lists of keys tie if their first keys are level and the others tie. -/
theorem tied_cons : Tied (item :: items) (x :: xs) (y :: ys) ↔
    x.sortCompare y = .eq ∧ Tied items xs ys := by
  unfold Tied
  rw [← Nat.and_forall_add_one]
  simp

/-- A list of keys precedes another one by its first key, or is level in it and precedes by
the others. -/
theorem precedes_cons : Precedes (item :: items) (x :: xs) (y :: ys) ↔
    x.sortCompare y = (if item.ascending then .lt else .gt) ∨
      x.sortCompare y = .eq ∧ Precedes items xs ys := by
  have nowhere : Tied [] (x :: xs) (y :: ys) := fun _ _ _ => nofun
  unfold Precedes
  rw [← Nat.or_exists_add_one]
  apply or_congr
  · simp [nowhere]
  · simp only [List.getElem?_cons_succ, List.take_succ_cons, tied_cons]
    grind

/-- Lists of keys compare as equal exactly if they tie. -/
theorem compareBy_eq_iff : compareBy items xs ys = .eq ↔ Tied items xs ys := by
  induction items generalizing xs ys with
  | nil => simp [compareBy, Tied]
  | cons item items ih =>
      cases xs with
      | nil => simp [compareBy, Tied]
      | cons x xs =>
          cases ys with
          | nil => simp [compareBy, Tied]
          | cons y ys =>
              rw [compareBy_cons, Ordering.then_eq_eq, Value.directed_eq_iff, ih, tied_cons]

/-- A list of keys compares as less exactly if it precedes. -/
theorem compareBy_lt_iff : compareBy items xs ys = .lt ↔ Precedes items xs ys := by
  induction items generalizing xs ys with
  | nil => simp [compareBy, Precedes]
  | cons item items ih =>
      cases xs with
      | nil => simp [compareBy, Precedes]
      | cons x xs =>
          cases ys with
          | nil => simp [compareBy, Precedes]
          | cons y ys =>
              rw [compareBy_cons, Ordering.then_eq_lt, Value.directed_lt_iff,
                Value.directed_eq_iff, ih, precedes_cons]

instance (items : List SortItem) (xs ys : List Value) : Decidable (Tied items xs ys) :=
  decidable_of_iff _ compareBy_eq_iff

/-- Lists with a key for each criterion, such that the keys for any one of them can
be sorted. -/
structure Sortable (items : List SortItem) (keys : List (List Value)) : Prop where
  widths : ∀ xs ∈ keys, xs.length = items.length
  columns : ∀ position : Nat, Value.Sortable (keys.filterMap fun xs => xs[position]?)

/-- Lists that can be sorted can be sorted without their first keys. -/
theorem Sortable.tail {keys : List (List Value)} (sortable : Sortable (item :: items) keys) :
    Sortable items (keys.map List.tail) := by
  constructor
  · intro xs member
    obtain ⟨whole, inside, rfl⟩ := List.mem_map.mp member
    rw [List.length_tail, sortable.widths whole inside]
    rfl
  · intro position
    have column := sortable.columns (position + 1)
    rw [List.filterMap_map]
    simpa only [Function.comp_def, List.getElem?_tail] using column

/-- The order of lists that can be sorted is regular along chains. -/
theorem Sortable.compareBy_chained {keys : List (List Value)} (sortable : Sortable items keys)
    (left : xs ∈ keys) (middle : ys ∈ keys) (right : zs ∈ keys) :
    Chained (compareBy items xs ys) (compareBy items ys zs) (compareBy items xs zs) := by
  induction items generalizing keys xs ys zs with
  | nil => exact fun _ _ => rfl
  | cons item items ih =>
      obtain ⟨x, xs, rfl⟩ := List.exists_cons_of_length_eq_add_one (sortable.widths _ left)
      obtain ⟨y, ys, rfl⟩ := List.exists_cons_of_length_eq_add_one (sortable.widths _ middle)
      obtain ⟨z, zs, rfl⟩ := List.exists_cons_of_length_eq_add_one (sortable.widths _ right)
      have first : ∀ {x xs}, x :: xs ∈ keys → x ∈ keys.filterMap fun xs => xs[0]? :=
        fun member => List.mem_filterMap.mpr ⟨_, member, rfl⟩
      rw [compareBy_cons, compareBy_cons, compareBy_cons]
      apply Chained.lex
      · exact (sortable.columns 0).directed_chained _ (first left) (first middle) (first right)
      · exact ih sortable.tail (List.mem_map_of_mem left) (List.mem_map_of_mem middle)
          (List.mem_map_of_mem right)

/-! ### Sorted rows -/

/-- The same rows in the order of their criteria, rows without a difference being in
the order in which they came. -/
structure Sorted (items : List SortItem) (outputs sorted : List OutputRow) : Prop where
  perm : sorted.Perm outputs
  ordered : sorted.Pairwise fun row later => ¬ Precedes items later.sortedBy row.sortedBy
  stable : ∀ row ∈ outputs,
    (sorted.filter fun other => Tied items other.sortedBy row.sortedBy) =
      outputs.filter fun other => Tied items other.sortedBy row.sortedBy

/-- A list of keys may stand in front of another one unless this one precedes it. -/
theorem ne_gt_iff_not_precedes :
    compareBy items xs ys ≠ .gt ↔ ¬ Precedes items ys xs := by
  rw [← compareBy_lt_iff, compareBy_swap items xs ys]
  cases compareBy items xs ys <;> simp

/-- Rows whose keys can be sorted are sorted by them, and the sorting is stable. -/
theorem sort_sorted {outputs : List OutputRow}
    (sortable : Sortable items (outputs.map sortedBy)) :
    Sorted items outputs (sort items outputs) := by
  have transitive := transitive_of_chained
    (fun a b : OutputRow => compareBy items a.sortedBy b.sortedBy)
    fun a left b middle c right => sortable.compareBy_chained (List.mem_map_of_mem left)
      (List.mem_map_of_mem middle) (List.mem_map_of_mem right)
  have total := total_of_swap fun a b : OutputRow => compareBy_swap items a.sortedBy b.sortedBy
  constructor
  · exact List.mergeSort_perm _ _
  · apply (pairwise_mergeSort_of_mem transitive total).imp
    intro row later inOrder
    exact ne_gt_iff_not_precedes.mp (bne_iff_ne.mp inOrder)
  · intro row member
    apply filter_mergeSort_of_mem transitive total
    intro a left b right tied tied'
    -- Both are level with the row, so that there is no way up from one to the other.
    rw [decide_eq_true_eq, ← compareBy_eq_iff] at tied tied'
    rw [bne_iff_ne]
    apply (sortable.compareBy_chained (List.mem_map_of_mem left) (List.mem_map_of_mem member)
      (List.mem_map_of_mem right)).ne_gt
    · simp [tied]
    · simp [compareBy_swap items b.sortedBy row.sortedBy, tied']

end OutputRow

end Relational
