import Mathlib.Data.Finset.Card
import Relational.Proofs.Query.Counting
import Relational.Proofs.Value.Key

/-!
# Runs of an accumulator

With `DISTINCT` an accumulator takes in the values that are the first with their
keys, and nothing else has an effect on it.  A run over all values therefore goes
along with a run without `DISTINCT` over these first occurrences: after each value
the two states differ in the keys seen only, and an error of the one is reported
where the value of the other stands.  The number of first occurrences is the number
of keys.
-/

namespace Relational

namespace Accumulator

variable {state : Accumulator} {function : AggregateFunction} {values : List Value}
  {value : Value} {key : Key} {keys : List Key}

/-! ### Runs -/

/-- The state after some values. -/
def after (state : Accumulator) (values : List Value) : Accumulator :=
  values.foldl (fun state value => (state.feed value).1) state

/-- What is reported for each of some values. -/
def reports (state : Accumulator) : List Value → List (Option Error)
  | [] => []
  | value :: rest => (state.feed value).2 :: reports (state.feed value).1 rest

theorem after_concat (state : Accumulator) (values : List Value) (value : Value) :
    state.after (values ++ [value]) = ((state.after values).feed value).1 := by
  simp [after]

/-- One more value adds its own report behind those before. -/
theorem reports_concat (state : Accumulator) (values : List Value) (value : Value) :
    state.reports (values ++ [value]) =
      state.reports values ++ [((state.after values).feed value).2] := by
  induction values generalizing state with
  | nil => rfl
  | cons first rest ih =>
      rw [List.cons_append, reports, ih, reports]
      rfl

/-- Each value has a report. -/
theorem length_reports (state : Accumulator) (values : List Value) :
    (state.reports values).length = values.length := by
  induction values generalizing state with
  | nil => rfl
  | cons first rest ih => rw [reports, List.length_cons, ih, List.length_cons]

theorem getElem?_reports_concat_of_lt {position : Nat} (inside : position < values.length) :
    (state.reports (values ++ [value]))[position]? = (state.reports values)[position]? := by
  rw [reports_concat, List.getElem?_append_left (inside.trans_eq (length_reports _ _).symm)]

theorem getElem?_reports_concat_length :
    (state.reports (values ++ [value]))[values.length]? =
      some ((state.after values).feed value).2 := by
  rw [reports_concat, ← length_reports state values, List.getElem?_concat_length]

/-- Taking a value in neither looks at the keys seen nor changes them. -/
theorem take_seen (state : Accumulator) (seen : Option (List Key)) (value : Value) :
    take { state with seen := seen } value =
      ({ (state.take value).1 with seen := seen }, (state.take value).2) := by
  obtain ⟨function, _, count, integers, floats, saw, extreme⟩ := state
  cases function with
  | count => rfl
  | sum | avg => cases value <;> rfl
  | min | max =>
      cases extreme with
      | none => rfl
      | some current =>
          unfold take keepExtreme
          dsimp only
          split <;> rfl

/-- A value that is taken in is counted, errors included. -/
theorem exists_take (state : Accumulator) (value : Value) :
    ∃ integers floats saw extreme, (state.take value).1 =
      { state with
        count := state.count + 1
        integerSum := integers
        floatSum := floats
        sawFloat := saw
        extreme := extreme } := by
  obtain ⟨function, seen, count, integers, floats, saw, extreme⟩ := state
  cases function with
  | count => exact ⟨_, _, _, _, rfl⟩
  | sum | avg => cases value <;> exact ⟨_, _, _, _, rfl⟩
  | min | max =>
      unfold take keepExtreme
      dsimp only
      split
      · exact ⟨_, _, _, _, rfl⟩
      · split <;> exact ⟨_, _, _, _, rfl⟩

/-- A value that is fed is skipped or taken in. -/
theorem feed_eq (state : Accumulator) (value : Value) : state.feed value = (state, none) ∨
    ∃ seen, state.feed value = take { state with seen := seen } value := by
  unfold feed
  split
  · exact .inl rfl
  · split
    · exact .inr ⟨state.seen, rfl⟩
    · split
      · exact .inl rfl
      · exact .inr ⟨_, rfl⟩

theorem feed_null (null : Key.ofValue? value = none) : state.feed value = (state, none) := by
  rw [feed, null]

theorem feed_plain (plain : state.seen = none) (present : Key.ofValue? value = some key) :
    state.feed value = state.take value := by
  rw [feed, present, plain]

/-- A null and a value with a known key have no effect. -/
theorem feed_known (known : ∀ key, Key.ofValue? value = some key → key ∈ keys) :
    feed { state with seen := some keys } value = ({ state with seen := some keys }, none) := by
  unfold feed
  split
  · rfl
  · rename_i key present
    exact if_pos (known key present)

/-- A value with a new key is taken in, and the key is remembered. -/
theorem feed_new (present : Key.ofValue? value = some key) (new : key ∉ keys) :
    feed { state with seen := some keys } value =
      ({ (state.take value).1 with seen := some (key :: keys) }, (state.take value).2) := by
  rw [feed, present, ← take_seen]
  exact if_neg new

theorem start_plain (function : AggregateFunction) : (start function false).seen = none :=
  rfl

/-- What remembers no keys does not come to remember any. -/
theorem seen_after (plain : state.seen = none) (values : List Value) :
    (state.after values).seen = none := by
  induction values using List.reverseRecOn with
  | nil => exact plain
  | append_singleton values value ih =>
      rw [after_concat]
      cases present : Key.ofValue? value with
      | none => rw [feed_null present, ih]
      | some key =>
          obtain ⟨_, _, _, _, taken⟩ := exists_take (state.after values) value
          rw [feed_plain ih present, taken]
          exact ih

/-- Feeding a value does not change the function. -/
theorem function_feed (state : Accumulator) (value : Value) :
    (state.feed value).1.function = state.function := by
  rcases feed_eq state value with skipped | ⟨seen, fed⟩
  · rw [skipped]
  · obtain ⟨_, _, _, _, taken⟩ := exists_take { state with seen := seen } value
    rw [fed, taken]

/-- A run does not change the function. -/
theorem function_after (state : Accumulator) (values : List Value) :
    (state.after values).function = state.function := by
  induction values using List.reverseRecOn with
  | nil => rfl
  | append_singleton values value ih => rw [after_concat, function_feed, ih]

/-- Nulls have no effect. -/
theorem after_filter (state : Accumulator) (values : List Value) :
    state.after (values.filter fun value => !value.isNull) = state.after values := by
  induction values using List.reverseRecOn with
  | nil => rfl
  | append_singleton values value ih =>
      rw [List.filter_append, List.filter_singleton]
      cases null : value.isNull with
      | true =>
          rw [Bool.not_true, cond_false, List.append_nil, ih, after_concat,
            feed_null (Key.ofValue?_eq_none_iff.mpr null)]
      | false => rw [Bool.not_false, cond_true, after_concat, after_concat, ih]

end Accumulator

/-! ### First occurrences -/

/-- The keys of some values, one for each value but null. -/
def keysOf (values : List Value) : List Key :=
  values.filterMap Key.ofValue?

/-- The key of the value at a position, if there is one. -/
def keyAt (values : List Value) (position : Nat) : Option Key :=
  values[position]?.bind Key.ofValue?

/-- At the position stands the first value that has its key. -/
def IsFirst (values : List Value) (position : Nat) : Prop :=
  (keyAt values position).isSome ∧
    ∀ earlier < position, keyAt values earlier ≠ keyAt values position

instance (values : List Value) (position : Nat) : Decidable (IsFirst values position) :=
  inferInstanceAs (Decidable (_ ∧ ∀ earlier < position, _))

/-- The positions at which values stand that are the first with their keys. -/
def firstPositions (values : List Value) : List Nat :=
  (List.range values.length).filter fun position => IsFirst values position

/-- The values that are the first with their keys. -/
def firstOccurrences (values : List Value) : List Value :=
  (firstPositions values).filterMap fun position => values[position]?

section FirstOccurrences

variable {values : List Value} {value : Value} {position : Nat} {key : Key}

theorem keyAt_concat_of_lt (inside : position < values.length) :
    keyAt (values ++ [value]) position = keyAt values position := by
  rw [keyAt, List.getElem?_append_left inside, keyAt]

theorem keyAt_concat_length : keyAt (values ++ [value]) values.length = Key.ofValue? value := by
  simp [keyAt]

/-- The keys of values are those that stand at some position. -/
theorem mem_keysOf : key ∈ keysOf values ↔
    ∃ position < values.length, keyAt values position = some key := by
  rw [keysOf, List.mem_filterMap]
  constructor
  · intro ⟨value, member, same⟩
    obtain ⟨position, inside, rfl⟩ := List.mem_iff_getElem.mp member
    exact ⟨position, inside, by simpa [keyAt, inside] using same⟩
  · intro ⟨position, inside, same⟩
    exact ⟨values[position], List.getElem_mem inside, by simpa [keyAt, inside] using same⟩

theorem lt_of_mem_firstPositions (member : position ∈ firstPositions values) :
    position < values.length :=
  List.mem_range.mp (List.mem_of_mem_filter member)

/-- What comes later does not change where first occurrences stand. -/
theorem isFirst_concat_of_lt (inside : position < values.length) :
    IsFirst (values ++ [value]) position ↔ IsFirst values position := by
  have before : ∀ earlier < position,
      keyAt (values ++ [value]) earlier = keyAt values earlier :=
    fun earlier less => keyAt_concat_of_lt (less.trans inside)
  rw [IsFirst, IsFirst, keyAt_concat_of_lt inside]
  apply and_congr_right'
  apply forall₂_congr
  intro earlier less
  rw [before earlier less]

/-- The last value is the first with its key exactly if the earlier ones do not have this
key. -/
theorem isFirst_concat_length : IsFirst (values ++ [value]) values.length ↔
    ∃ key, Key.ofValue? value = some key ∧ key ∉ keysOf values := by
  rw [IsFirst, keyAt_concat_length, Option.isSome_iff_exists, exists_and_right.symm]
  apply exists_congr
  intro key
  apply and_congr_right
  intro present
  rw [present, mem_keysOf]
  simp only [not_exists, not_and]
  apply forall₂_congr
  intro earlier less
  rw [keyAt_concat_of_lt less]

/-- What is not the first with its key is null or has the key of an earlier value. -/
theorem not_isFirst_concat_length : ¬ IsFirst (values ++ [value]) values.length ↔
    ∀ key, Key.ofValue? value = some key → key ∈ keysOf values := by
  rw [isFirst_concat_length]
  simp only [not_exists, not_and, not_not]

/-- One more value adds its position if it is the first with its key. -/
theorem firstPositions_concat : firstPositions (values ++ [value]) =
    firstPositions values ++
      if IsFirst (values ++ [value]) values.length then [values.length] else [] := by
  rw [firstPositions, List.length_append, List.length_singleton, List.range_succ,
    List.filter_append, List.filter_singleton]
  congr 1
  · apply List.filter_congr
    intro position member
    exact decide_eq_decide.mpr (isFirst_concat_of_lt (List.mem_range.mp member))
  · simp

theorem firstPositions_concat_later (later : ¬ IsFirst (values ++ [value]) values.length) :
    firstPositions (values ++ [value]) = firstPositions values := by
  rw [firstPositions_concat, if_neg later, List.append_nil]

theorem firstPositions_concat_first (first : IsFirst (values ++ [value]) values.length) :
    firstPositions (values ++ [value]) = firstPositions values ++ [values.length] := by
  rw [firstPositions_concat, if_pos first]

/-- One more value is a first occurrence if it is the first with its key. -/
theorem firstOccurrences_concat : firstOccurrences (values ++ [value]) =
    firstOccurrences values ++
      if IsFirst (values ++ [value]) values.length then [value] else [] := by
  rw [firstOccurrences, firstPositions_concat, List.filterMap_append]
  congr 1
  · apply List.filterMap_congr
    intro position member
    exact List.getElem?_append_left (lt_of_mem_firstPositions member)
  · split <;> simp

theorem firstOccurrences_concat_later (later : ¬ IsFirst (values ++ [value]) values.length) :
    firstOccurrences (values ++ [value]) = firstOccurrences values := by
  rw [firstOccurrences_concat, if_neg later, List.append_nil]

theorem firstOccurrences_concat_first (first : IsFirst (values ++ [value]) values.length) :
    firstOccurrences (values ++ [value]) = firstOccurrences values ++ [value] := by
  rw [firstOccurrences_concat, if_pos first]

/-- One more value adds its key, if it has one. -/
theorem keysOf_concat : keysOf (values ++ [value]) = keysOf values ++ (Key.ofValue? value).toList := by
  rw [keysOf, List.filterMap_append, keysOf]
  cases present : Key.ofValue? value <;> simp [present]

/-- The first occurrences have all keys. -/
theorem mem_keysOf_firstOccurrences : key ∈ keysOf (firstOccurrences values) ↔
    key ∈ keysOf values := by
  induction values using List.reverseRecOn with
  | nil => rfl
  | append_singleton values value ih =>
      rw [keysOf_concat, List.mem_append, Option.mem_toList]
      by_cases first : IsFirst (values ++ [value]) values.length
      · rw [firstOccurrences_concat_first first, keysOf_concat, List.mem_append, ih,
          Option.mem_toList]
      · rw [firstOccurrences_concat_later first, ih]
        exact (or_iff_left_of_imp (not_isFirst_concat_length.mp first key)).symm

/-- No two first occurrences have the same key. -/
theorem nodup_keysOf_firstOccurrences (values : List Value) :
    (keysOf (firstOccurrences values)).Nodup := by
  induction values using List.reverseRecOn with
  | nil => exact List.nodup_nil
  | append_singleton values value ih =>
      by_cases first : IsFirst (values ++ [value]) values.length
      · obtain ⟨key, present, new⟩ := isFirst_concat_length.mp first
        rw [firstOccurrences_concat_first first, keysOf_concat, present]
        apply List.Nodup.append ih (List.nodup_singleton key)
        simpa [mem_keysOf_firstOccurrences] using new
      · rwa [firstOccurrences_concat_later first]

/-- There are as many first occurrences as keys. -/
theorem length_keysOf_firstOccurrences (values : List Value) :
    (keysOf (firstOccurrences values)).length = (keysOf values).toFinset.card := by
  have same : (keysOf (firstOccurrences values)).toFinset = (keysOf values).toFinset := by
    ext key
    simp only [List.mem_toFinset, mem_keysOf_firstOccurrences]
  rw [← same, List.toFinset_card_of_nodup (nodup_keysOf_firstOccurrences values)]

end FirstOccurrences

/-! ### Runs with and without `DISTINCT` -/

namespace Accumulator

variable {state : Accumulator} {function : AggregateFunction} {values : List Value}
  {value : Value} {key : Key}

/-- A run without `DISTINCT`, and the keys of what it was fed beside it. -/
def remembering (function : AggregateFunction) (values : List Value) : Accumulator :=
  { (start function false).after values with seen := some (keysOf values).reverse }

/-- What remembers the keys of the first occurrences skips a value that is no first
occurrence. -/
theorem feed_remembering_later (later : ¬ IsFirst (values ++ [value]) values.length) :
    (remembering function (firstOccurrences values)).feed value =
      (remembering function (firstOccurrences values), none) := by
  apply feed_known
  intro key present
  rw [List.mem_reverse, mem_keysOf_firstOccurrences]
  exact not_isFirst_concat_length.mp later key present

/-- What remembers the keys of the first occurrences takes in one more of them. -/
theorem feed_remembering_first (first : IsFirst (values ++ [value]) values.length) :
    (remembering function (firstOccurrences values)).feed value =
      (remembering function (firstOccurrences values ++ [value]),
        (((start function false).after (firstOccurrences values)).feed value).2) := by
  obtain ⟨key, present, new⟩ := isFirst_concat_length.mp first
  have unseen : key ∉ (keysOf (firstOccurrences values)).reverse := by
    rwa [List.mem_reverse, mem_keysOf_firstOccurrences]
  have plain := feed_plain (seen_after (start_plain function) (firstOccurrences values)) present
  rw [remembering, feed_new present unseen, plain, remembering, after_concat, plain, keysOf_concat,
    present]
  simp

/-- A run with `DISTINCT` goes along with one over the first occurrences. -/
theorem after_distinct (function : AggregateFunction) (values : List Value) :
    (start function true).after values = remembering function (firstOccurrences values) := by
  induction values using List.reverseRecOn with
  | nil => rfl
  | append_singleton values value ih =>
      rw [after_concat, ih]
      by_cases first : IsFirst (values ++ [value]) values.length
      · rw [feed_remembering_first first, firstOccurrences_concat_first first]
      · rw [feed_remembering_later first, firstOccurrences_concat_later first]

/-- A run with `DISTINCT` reports what a run without it over the first occurrences
reports for each of them, and nothing for the other values. -/
structure ReportsFirsts (function : AggregateFunction) (values : List Value) : Prop where
  reported : (firstPositions values).map (fun position =>
      ((start function true).reports values)[position]?) =
    ((start function false).reports (firstOccurrences values)).map some
  silent : ∀ position < values.length, position ∉ firstPositions values →
    ((start function true).reports values)[position]? = some none

namespace ReportsFirsts

variable (known : ReportsFirsts function values)

include known

/-- One more value does not change what was reported before. -/
theorem reported_concat : (firstPositions values).map (fun position =>
      ((start function true).reports (values ++ [value]))[position]?) =
    ((start function false).reports (firstOccurrences values)).map some := by
  rw [← known.reported]
  apply List.map_congr_left
  intro position member
  exact getElem?_reports_concat_of_lt (lt_of_mem_firstPositions member)

/-- One more value leaves the skipped values without a report. -/
theorem silent_concat {position : Nat} (earlier : position < values.length)
    (absent : position ∉ firstPositions values) :
    ((start function true).reports (values ++ [value]))[position]? = some none := by
  rw [getElem?_reports_concat_of_lt earlier]
  exact known.silent position earlier absent

/-- The reports agree behind one more first occurrence. -/
theorem concat_first (first : IsFirst (values ++ [value]) values.length) :
    ReportsFirsts function (values ++ [value]) := by
  have last : ((start function true).reports (values ++ [value]))[values.length]? =
      some (((start function false).after (firstOccurrences values)).feed value).2 := by
    rw [getElem?_reports_concat_length, after_distinct, feed_remembering_first first]
  constructor
  · rw [firstPositions_concat_first first, List.map_append, known.reported_concat,
      List.map_singleton, last, firstOccurrences_concat_first first, reports_concat,
      List.map_append, List.map_singleton]
  · intro position inside absent
    rw [firstPositions_concat_first first, List.mem_append, List.mem_singleton, not_or] at absent
    rw [List.length_append, List.length_singleton] at inside
    exact known.silent_concat (by omega) absent.1

/-- The reports agree behind one more value that is skipped. -/
theorem concat_later (later : ¬ IsFirst (values ++ [value]) values.length) :
    ReportsFirsts function (values ++ [value]) := by
  constructor
  · rw [firstPositions_concat_later later, known.reported_concat,
      firstOccurrences_concat_later later]
  · intro position inside absent
    rw [firstPositions_concat_later later] at absent
    rw [List.length_append, List.length_singleton] at inside
    rcases Nat.lt_succ_iff_lt_or_eq.mp inside with earlier | last
    · exact known.silent_concat earlier absent
    · rw [last, getElem?_reports_concat_length, after_distinct, feed_remembering_later later]

end ReportsFirsts

/-- With `DISTINCT` each first occurrence is reported as without it, and nothing else is
reported. -/
theorem reportsFirsts (function : AggregateFunction) (values : List Value) :
    ReportsFirsts function values := by
  induction values using List.reverseRecOn with
  | nil => exact ⟨rfl, fun _ => nofun⟩
  | append_singleton values value ih =>
      by_cases first : IsFirst (values ++ [value]) values.length
      · exact ih.concat_first first
      · exact ih.concat_later first

/-- The result depends on what was fed, which with `DISTINCT` are the first
occurrences. -/
theorem result_distinct (function : AggregateFunction) (values : List Value) :
    ((start function true).after values).result =
      ((start function false).after (firstOccurrences values)).result := by
  rw [after_distinct]
  rfl

/-! ### Counts -/

/-- A run without `DISTINCT` counts the values that have a key. -/
theorem count_after (function : AggregateFunction) (values : List Value) :
    ((start function false).after values).count = (keysOf values).length := by
  induction values using List.reverseRecOn with
  | nil => rfl
  | append_singleton values value ih =>
      rw [after_concat, keysOf_concat, List.length_append]
      cases present : Key.ofValue? value with
      | none => rw [feed_null present, ih, Option.toList_none, List.length_nil, Nat.add_zero]
      | some key =>
          obtain ⟨_, _, _, _, taken⟩ := exists_take ((start function false).after values) value
          rw [feed_plain (seen_after (start_plain function) values) present, taken, ← ih,
            Option.toList_some, List.length_singleton]

/-- The distinct values are counted by their keys. -/
theorem result_count_distinct (values : List Value) :
    ((start .count true).after values).result =
      .integer (Int64.ofNat (keysOf values).toFinset.card) := by
  rw [result_distinct, result, function_after]
  change Value.integer (Int64.ofNat _) = _
  rw [count_after, length_keysOf_firstOccurrences]

/-! ### Sums of integers -/

/-- The sum of some integers. -/
def total (numbers : List Int64) : Int :=
  (numbers.map Int64.toInt).sum

/-- A sum that is an integer of 64 bits. -/
def Representable (sum : Int) : Prop :=
  Int64.minValue.toInt ≤ sum ∧ sum ≤ Int64.maxValue.toInt

instance (sum : Int) : Decidable (Representable sum) :=
  inferInstanceAs (Decidable (_ ∧ _))

/-- No sum of the first few integers leaves the range. -/
def NeverOverflows (numbers : List Int64) : Prop :=
  ∀ first, first <+: numbers → Representable (total first)

instance (numbers : List Int64) : Decidable (NeverOverflows numbers) :=
  decidable_of_iff (∀ first ∈ numbers.inits, Representable (total first)) <| by
    simp only [List.mem_inits, NeverOverflows]

/-- The sum of some integers as floats, rounded after each of them. -/
def roundedTotal (numbers : List Int64) : Binary64 :=
  numbers.foldl (fun sum n => sum + Binary64.ofInt64 n) 0.0

/-- A sum in the range is represented as it is. -/
theorem toInt_ofInt_of_representable {sum : Int} (within : Representable sum) :
    (Int64.ofInt sum).toInt = sum := by
  obtain ⟨above, below⟩ := within
  rw [Int64.toInt_minValue] at above
  rw [Int64.toInt_maxValue] at below
  exact Int64.toInt_ofInt_of_le above (Int.lt_of_le_sub_one below)

theorem total_concat (numbers : List Int64) (n : Int64) :
    total (numbers ++ [n]) = total numbers + n.toInt := by
  simp [total]

/-- No sum on the way overflows exactly if none did before and the whole sum does not. -/
theorem neverOverflows_concat {numbers : List Int64} {n : Int64} :
    NeverOverflows (numbers ++ [n]) ↔
      NeverOverflows numbers ∧ Representable (total (numbers ++ [n])) := by
  unfold NeverOverflows
  simp only [List.prefix_concat_iff, forall_eq_or_imp]
  exact and_comm

/-- Adding within the range fails outside of it alone. -/
theorem addWithin_eq (sum : Int) (n : Int64) : addWithin sum n =
    if Representable (sum + n.toInt) then some (sum + n.toInt) else none :=
  rfl

/-- The exact sum is kept until a sum leaves the range. -/
theorem after_integers (numbers : List Int64) :
    (start .sum false).after (numbers.map .integer) =
      { start .sum false with
        count := numbers.length
        integerSum := if NeverOverflows numbers then some (total numbers) else none
        floatSum := roundedTotal numbers } := by
  induction numbers using List.reverseRecOn with
  | nil => rfl
  | append_singleton numbers n ih =>
      have kept : ((if NeverOverflows numbers then some (total numbers) else none).bind
          fun sum => addWithin sum n) =
            if NeverOverflows (numbers ++ [n]) then some (total (numbers ++ [n])) else none := by
        by_cases before : NeverOverflows numbers
        · simp [before, addWithin_eq, neverOverflows_concat, total_concat]
        · simp [before, neverOverflows_concat]
      have rounded : roundedTotal (numbers ++ [n]) = roundedTotal numbers + Binary64.ofInt64 n := by
        simp [roundedTotal]
      rw [List.map_append, List.map_singleton, after_concat, ih, ← kept, rounded,
        List.length_append]
      rfl

/-- A sum of integers is exact if it never leaves the range. -/
theorem result_integers (numbers : List Int64) :
    ((start .sum false).after (numbers.map .integer)).result =
      if numbers = [] then .null
      else if NeverOverflows numbers then .integer (Int64.ofInt (total numbers))
      else .float (roundedTotal numbers) := by
  rw [after_integers]
  by_cases none : numbers = []
  · rw [if_pos none, none]
    rfl
  · have counted : numbers.length ≠ 0 := fun length => none (List.length_eq_zero_iff.mp length)
    unfold result
    simp only [start, counted, none, ↓reduceIte]
    by_cases within : NeverOverflows numbers
    · simp only [within, ↓reduceIte]
    · simp only [within, ↓reduceIte]

/-! ### Aggregates of queries -/

/-- If nothing is reported, a query gets the state after all values. -/
theorem feedEach_of_silent {α : Type} {valueOf : α → Except Error Value} {items : List α}
    (inputs : items.mapM valueOf = .ok values)
    (silent : ∀ report ∈ state.reports values, report = none) :
    feedEach valueOf state items = .ok (state.after values) := by
  rw [mapM_eq_ok] at inputs
  induction inputs generalizing state with
  | nil => rfl
  | @cons item value items values input _ ih =>
      obtain ⟨head, tail⟩ := List.forall_mem_cons.mp silent
      have fed : state.feed value = ((state.feed value).1, none) := by rw [← head]
      apply bind_eq_ok.mpr
      refine ⟨value, input, ?_⟩
      rw [fed]
      exact ih tail

/-- Functions that do not add take in any value. -/
def Silent (state : Accumulator) : Prop :=
  state.function ≠ .sum ∧ state.function ≠ .avg

/-- A function that does not add has no error to report. -/
theorem feed_silent (silent : state.Silent) (value : Value) : (state.feed value).2 = none := by
  rcases feed_eq state value with skipped | ⟨seen, fed⟩
  · rw [skipped]
  · rw [fed]
    unfold take
    dsimp only
    split
    · rfl
    · rename_i adds
      exact absurd adds silent.1
    · rename_i adds
      exact absurd adds silent.2
    · rfl
    · rfl

/-- A run of a function that does not add reports no error. -/
theorem reports_silent (silent : state.Silent) (values : List Value) :
    ∀ report ∈ state.reports values, report = none := by
  induction values generalizing state with
  | nil => exact List.forall_mem_nil _
  | cons value rest ih =>
      have onward : (state.feed value).1.Silent := by
        unfold Silent
        rwa [function_feed]
      exact List.forall_mem_cons.mpr ⟨feed_silent silent value, ih onward⟩

/-- What `DISTINCT` comes to: a run that goes along with one over the first
occurrences, the number of keys as the count, and the sum of the first occurrences
as long as these are integers the sum of which stays in the range. -/
structure MeansFirsts (function : AggregateFunction) (values : List Value) : Prop where
  finishes : ((start function true).after values).result =
    ((start function false).after (firstOccurrences values)).result
  reports : ReportsFirsts function values
  counts : ((start .count true).after values).result =
    .integer (Int64.ofNat (keysOf values).toFinset.card)
  exact : values.length < 2 ^ 63 →
    (Int64.ofNat (keysOf values).toFinset.card).toInt = (keysOf values).toFinset.card
  queried : ∀ now schema rows expression,
    rows.mapM (Select.aggregateInput now schema (some expression)) = .ok values →
      Select.aggregateValue now schema rows (.aggregate .count (some expression) true) =
        .ok (.integer (Int64.ofNat (keysOf values).toFinset.card))
  sums : ∀ numbers, firstOccurrences values = numbers.map .integer → NeverOverflows numbers →
    if numbers = [] then ((start .sum true).after values).result = .null
    else ∃ sum, ((start .sum true).after values).result = .integer sum ∧ sum.toInt = total numbers

/-- An aggregate with `DISTINCT` means the aggregate of the first occurrences: in its
result, in the errors that it reports and where it reports them, in what it counts and in
the sum of integers. -/
theorem distinct_means_firsts (function : AggregateFunction) (values : List Value) :
    MeansFirsts function values := by
  constructor
  · exact result_distinct function values
  · exact reportsFirsts function values
  · exact result_count_distinct values
  · intro few
    have fewer : (keysOf values).toFinset.card ≤ values.length :=
      (List.toFinset_card_le _).trans (List.length_filterMap_le _ _)
    exact toInt_ofNat_of_le fewer few
  · intro now schema rows expression inputs
    apply bind_eq_ok.mpr
    refine ⟨_, feedEach_of_silent inputs (reports_silent ⟨by decide, by decide⟩ values), ?_⟩
    rw [result_count_distinct]
    rfl
  · intro numbers fed within
    rw [result_distinct, fed, result_integers]
    by_cases none : numbers = []
    · rw [if_pos none, if_pos none]
    · rw [if_neg none, if_neg none, if_pos within]
      exact ⟨_, rfl, toInt_ofInt_of_representable (within numbers List.prefix_rfl)⟩

/-- The float 1.0 has the key of the integer 1, and nulls have none. -/
example : firstOccurrences [.integer 1, .null, .float ⟨0x3ff0000000000000⟩, .text "a", .integer 1,
    .null] = [.integer 1, .text "a"] := by
  decide +kernel

end Accumulator

end Relational
