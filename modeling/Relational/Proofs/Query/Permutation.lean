import Relational.Proofs.Query.Extreme

/-!
# Aggregates of integers in another order

The count, the least and the greatest of some integers do not depend on their order,
with `DISTINCT` or without.  Their sum depends on it where an exact sum that once left
the range is given up for a float: in one order all sums on the way may stay in the
range, and in another one not.
-/

namespace Relational

namespace Accumulator

variable {function : AggregateFunction} {distinct : Bool} {values others : List Value}
  {numbers numbers' : List Int64}

/-! ### What is taken in -/

/-- The integers among some values. -/
def integers (values : List Value) : List Int64 :=
  values.filterMap fun value =>
    match value with
    | .integer n => some n
    | _ => none

/-- The values that are taken in: all but nulls, or the first occurrences. -/
def taken (distinct : Bool) (values : List Value) : List Value :=
  if distinct then firstOccurrences values else values.filter fun value => !value.isNull

/-- A run over values has the result of one over those that are taken in. -/
theorem result_taken (function : AggregateFunction) (distinct : Bool) (values : List Value) :
    ((start function distinct).after values).result =
      ((start function false).after (taken distinct values)).result := by
  cases distinct with
  | true => exact result_distinct function values
  | false => exact congrArg result (after_filter (start function false) values).symm

/-- A first occurrence is one of the values and not a null. -/
theorem mem_of_mem_firstOccurrences {value : Value} (member : value ∈ firstOccurrences values) :
    value ∈ values ∧ value.isNull = false := by
  obtain ⟨position, among, found⟩ := List.mem_filterMap.mp member
  refine ⟨List.mem_of_getElem? found, ?_⟩
  have first : IsFirst values position := of_decide_eq_true (List.mem_filter.mp among).2
  have keyed := first.1
  rw [keyAt, found, Option.bind_some, Key.isSome_ofValue?] at keyed
  simpa using keyed

/-- What is taken in is one of the values and not a null. -/
theorem mem_of_mem_taken {value : Value} (member : value ∈ taken distinct values) :
    value ∈ values ∧ value.isNull = false := by
  cases distinct with
  | true => exact mem_of_mem_firstOccurrences member
  | false => simpa using List.mem_filter.mp member

/-- Of integers and nulls, integers are taken in. -/
theorem taken_eq (distinct : Bool) (fits : ∀ value ∈ values, value.Fits .integer) :
    taken distinct values = (integers (taken distinct values)).map .integer := by
  have each : ∀ value ∈ taken distinct values, ∃ n, value = .integer n := by
    intro value member
    obtain ⟨inside, present⟩ := mem_of_mem_taken member
    have fits := fits value inside
    cases value with
    | null => cases present
    | integer n => exact ⟨n, rfl⟩
    | float x => cases fits
    | boolean b => cases fits
    | text s => cases fits
  generalize taken distinct values = fed at each
  induction fed with
  | nil => rfl
  | cons value rest ih =>
      obtain ⟨⟨n, same⟩, later⟩ := List.forall_mem_cons.mp each
      subst same
      exact congrArg (Value.integer n :: ·) (ih later)

theorem keysOf_map_integer (numbers : List Int64) :
    keysOf (numbers.map .integer) = numbers.map .integer := by
  rw [keysOf, List.filterMap_map]
  exact congrFun (List.filterMap_eq_map (f := Key.integer)) numbers

/-- In another order, the same integers are taken in. -/
theorem taken_perm (distinct : Bool) (fits : ∀ value ∈ values, value.Fits .integer)
    (same : values.Perm others) :
    (integers (taken distinct values)).Perm (integers (taken distinct others)) := by
  cases distinct with
  | false => exact (same.filter _).filterMap _
  | true =>
      have fits' : ∀ value ∈ others, value.Fits .integer :=
        fun value member => fits value (same.mem_iff.mpr member)
      have keys : ∀ {values : List Value}, (∀ value ∈ values, value.Fits .integer) →
          keysOf (firstOccurrences values) = (integers (taken true values)).map .integer := by
        intro values fits
        rw [← keysOf_map_integer, ← taken_eq true fits]
        rfl
      have nodup : ∀ {values : List Value}, (∀ value ∈ values, value.Fits .integer) →
          (integers (taken true values)).Nodup := by
        intro values fits
        have unique := nodup_keysOf_firstOccurrences values
        rw [keys fits] at unique
        exact unique.of_map
      rw [List.perm_ext_iff_of_nodup (nodup fits) (nodup fits')]
      intro n
      have member : ∀ {values : List Value}, (∀ value ∈ values, value.Fits .integer) →
          (n ∈ integers (taken true values) ↔ Key.integer n ∈ keysOf values) := by
        intro values fits
        rw [← mem_keysOf_firstOccurrences, keys fits,
          List.mem_map_of_injective fun _ _ => Key.integer.inj]
      rw [member fits, member fits']
      exact (same.filterMap _).mem_iff

/-! ### Results -/

/-- The count of integers is how many they are. -/
theorem result_count (numbers : List Int64) :
    ((start .count false).after (numbers.map .integer)).result =
      .integer (Int64.ofNat numbers.length) := by
  rw [result, function_after]
  change Value.integer (Int64.ofNat _) = _
  rw [count_after, keysOf_map_integer, List.length_map]

/-- The order of integers tells them apart. -/
theorem eq_of_directed {ascending : Bool} {m n : Int64}
    (forward : Value.directed ascending (.integer m) (.integer n) ≠ .gt)
    (back : Value.directed ascending (.integer n) (.integer m) ≠ .gt) : m = n := by
  have level := Value.directed_eq_of_ne_gt forward back
  have same : compare m.toInt n.toInt = .eq := Value.directed_eq_iff.mp level
  exact Int64.toInt_inj.mp (Int.compare_eq_eq.mp same)

theorem sortable_integers (numbers : List Int64) : Value.Sortable (numbers.map .integer) := by
  have fits : ∀ value ∈ numbers.map Value.integer, value.Fits .integer := by
    simp [Value.Fits]
  exact Value.Sortable.of_fits fits (by simp [Value.isNaN])

/-- Sorting leaves one order of some integers. -/
theorem mergeSort_integers_perm (ascending : Bool) (same : numbers.Perm numbers') :
    (numbers'.map Value.integer).mergeSort (fun a b => Value.directed ascending a b != .gt) =
      (numbers.map Value.integer).mergeSort fun a b => Value.directed ascending a b != .gt := by
  apply List.Perm.eq_of_pairwise _ ((sortable_integers numbers').pairwise_mergeSort ascending)
    ((sortable_integers numbers).pairwise_mergeSort ascending)
  · have perm := (same.map Value.integer).symm
    exact (List.mergeSort_perm _ _).trans (perm.trans (List.mergeSort_perm _ _).symm)
  · intro a b left right forward back
    rw [List.mem_mergeSort] at left right
    obtain ⟨m, -, rfl⟩ := List.mem_map.mp left
    obtain ⟨n, -, rfl⟩ := List.mem_map.mp right
    rw [eq_of_directed (bne_iff_ne.mp forward) (bne_iff_ne.mp back)]

/-- One of the integers is in front of them sorted, in whatever order they came. -/
theorem result_seeking_perm (ascending : Bool) (same : numbers.Perm numbers') :
    ((start (seeking ascending) false).after (numbers'.map .integer)).result =
      ((start (seeking ascending) false).after (numbers.map .integer)).result := by
  rw [result_seeking ascending (sortable_integers numbers),
    result_seeking ascending (sortable_integers numbers'), mergeSort_integers_perm ascending same]

/-- Either no sum on the way leaves the range in either order, or one does so in both
orders and the rounded sums are the same. -/
def SumsAgree (numbers numbers' : List Int64) : Prop :=
  NeverOverflows numbers ∧ NeverOverflows numbers' ∨
    ¬ NeverOverflows numbers ∧ ¬ NeverOverflows numbers' ∧
      roundedTotal numbers' = roundedTotal numbers

/-- The total does not depend on the order. -/
theorem total_perm (same : numbers.Perm numbers') : total numbers' = total numbers :=
  (same.map Int64.toInt).sum_eq.symm

/-- The sum of integers is the same in two orders exactly if the two agree. -/
theorem result_sum_eq_iff (same : numbers.Perm numbers') :
    ((start .sum false).after (numbers'.map .integer)).result =
      ((start .sum false).after (numbers.map .integer)).result ↔ SumsAgree numbers numbers' := by
  rw [result_integers, result_integers]
  by_cases none : numbers = []
  · subst none
    rw [List.nil_perm.mp same]
    exact iff_of_true rfl (.inl ⟨by decide, by decide⟩)
  · have none' : numbers' ≠ [] := fun empty => none (List.perm_nil.mp (empty ▸ same))
    rw [if_neg none, if_neg none', total_perm same]
    unfold SumsAgree
    by_cases within : NeverOverflows numbers
    · by_cases within' : NeverOverflows numbers'
      · simp [within, within']
      · simp [within, within']
    · by_cases within' : NeverOverflows numbers'
      · simp [within, within']
      · simp [within, within']

/-- The result for some integers and nulls depends on their order only if they are
summed and a sum leaves the range in one of the orders. -/
theorem result_perm_iff (unrounded : function ≠ .avg)
    (fits : ∀ value ∈ values, value.Fits .integer) (same : values.Perm others) :
    ((start function distinct).after others).result =
        ((start function distinct).after values).result ↔
      (function = .sum →
        SumsAgree (integers (taken distinct values)) (integers (taken distinct others))) := by
  have fits' : ∀ value ∈ others, value.Fits .integer :=
    fun value member => fits value (same.mem_iff.mpr member)
  have perm := taken_perm distinct fits same
  have fed := taken_eq distinct fits
  have fed' := taken_eq distinct fits'
  generalize integers (taken distinct values) = numbers at *
  generalize integers (taken distinct others) = numbers' at *
  rw [result_taken, fed', result_taken function distinct values, fed]
  cases function with
  | count =>
      apply iff_of_true _ nofun
      rw [result_count, result_count, perm.length_eq]
  | sum =>
      rw [result_sum_eq_iff perm]
      simp
  | avg => exact absurd rfl unrounded
  | min => exact iff_of_true (result_seeking_perm true perm) nofun
  | max => exact iff_of_true (result_seeking_perm false perm) nofun

/-! ### A sum that is lost on the way -/

/-- The greatest integer, and one back and forth. -/
def overshooting : List Value :=
  [.integer Int64.maxValue, .integer 1, .integer (-1)]

/-- The greatest integer, and one forth and back. -/
def recoiling : List Value :=
  [.integer Int64.maxValue, .integer (-1), .integer 1]

theorem overshooting_perm : overshooting.Perm recoiling :=
  .cons _ (.swap _ _ _)

/-- The two lists are an instance of what decides whether results agree. -/
theorem overshooting_result_iff :
    AggregateFunction.sum ≠ .avg ∧ (∀ value ∈ overshooting, value.Fits .integer) ∧
      overshooting.Perm recoiling ∧
      (((start .sum false).after recoiling).result = ((start .sum false).after overshooting).result ↔
        (AggregateFunction.sum = .sum →
          SumsAgree (integers (taken false overshooting)) (integers (taken false recoiling)))) := by
  have fits : ∀ value ∈ overshooting, value.Fits .integer := by decide
  have unrounded : AggregateFunction.sum ≠ .avg := by decide
  exact ⟨unrounded, fits, overshooting_perm, result_perm_iff unrounded fits overshooting_perm⟩

/-- In one order the sum of some integers is exact, and in another one it is not
even an integer. -/
theorem sum_depends_on_order :
    (∀ value ∈ overshooting, value.Fits .integer) ∧ overshooting.Perm recoiling ∧
      ((start .sum false).after recoiling).result = .integer Int64.maxValue ∧
      ((start .sum false).after overshooting).result = .float ⟨0x43e0000000000000⟩ := by
  refine ⟨by decide, overshooting_perm, ?_, ?_⟩
  · decide +kernel
  · decide +kernel

end Accumulator

end Relational
