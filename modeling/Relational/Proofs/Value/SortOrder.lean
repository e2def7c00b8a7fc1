import Relational.Proofs.Binary64.Nearest
import Relational.Proofs.Value.Equality

/-!
# The order of sorted columns

Every two values are ordered, the same way from both sides, and values of one
kind other than the floats are ordered totally.  Between numbers the order is
transitive unless it passes through a float that blurs the other two: a NaN,
which is put beside every number, or a float that is the nearest to two
different integers, which is put beside both.
-/

namespace Relational

namespace Value

variable {a b c : Value} {x y : Binary64}

/-! ### Both sides -/

/-- Exchanging two values reverses their order. -/
theorem sortCompare_swap (a b : Value) : b.sortCompare a = (a.sortCompare b).swap := by
  unfold sortCompare
  rw [compare?_swap a b]
  cases a.compare? b with
  | some order => rfl
  | none => exact (Nat.compare_swap _ _).symm

/-- A value is level with itself. -/
theorem sortCompare_self (a : Value) : a.sortCompare a = .eq := by
  have same := sortCompare_swap a a
  cases found : a.sortCompare a with
  | eq => rfl
  | lt | gt =>
      rw [found] at same
      cases same

/-! ### Kinds -/

/-- Values that compare are of one kind. -/
theorem rank_eq_of_compare? {order : Ordering} (compared : a.compare? b = some order) :
    a.rank = b.rank := by
  cases a <;> cases b <;> first | rfl | cases compared

/-- Kinds are sorted by their ranks. -/
theorem rank_le_of_sortCompare (sorted : a.sortCompare b ≠ .gt) : a.rank ≤ b.rank := by
  unfold sortCompare at sorted
  cases compared : a.compare? b with
  | some order => exact (rank_eq_of_compare? compared).le
  | none =>
      rw [compared] at sorted
      exact Nat.not_lt.mp fun above => sorted (Nat.compare_eq_gt.mpr above)

/-- A value of a lower kind comes first. -/
theorem sortCompare_of_rank_lt (below : a.rank < b.rank) : a.sortCompare b = .lt := by
  unfold sortCompare
  cases compared : a.compare? b with
  | some order => exact absurd (rank_eq_of_compare? compared) below.ne
  | none => exact Nat.compare_eq_lt.mpr below

/-- The order of texts is transitive. -/
theorem compareText_trans {s t u : String} (first : compareText s t ≠ .gt)
    (second : compareText t u ≠ .gt) : compareText s u ≠ .gt := by
  have ordered : ∀ s t : String, compareText s t ≠ .gt ↔ s ≤ t := by
    intro s t
    rw [Ne, compareText, compareOfLessAndEq_eq_gt le_antisymm le_total not_le, not_lt]
  rw [ordered] at first second ⊢
  exact first.trans second

/-! ### Numbers -/

/-- A number has a float. -/
theorem exists_asFloat? (number : a.rank = 1) : ∃ x, a.asFloat? = some x := by
  cases a with
  | integer n => exact ⟨_, rfl⟩
  | float x => exact ⟨_, rfl⟩
  | null | boolean _ | text _ => cases number

/-- Integers have their own order; with a float among two numbers, both are
compared as floats. -/
theorem compare?_numbers (left : a.asFloat? = some x) (right : b.asFloat? = some y) :
    (∃ m n, a = .integer m ∧ b = .integer n) ∨ a.compare? b = Binary64.compare? x y := by
  cases a with
  | null | boolean _ | text _ => cases left
  | integer m =>
      cases b with
      | null | boolean _ | text _ => cases right
      | integer n => exact Or.inl ⟨m, n, rfl, rfl⟩
      | float _ =>
          cases left
          cases right
          exact Or.inr rfl
  | float _ =>
      cases b with
      | null | boolean _ | text _ => cases right
      | integer _ | float _ =>
          cases left
          cases right
          exact Or.inr rfl

theorem rank_of_asFloat? (number : a.asFloat? = some x) : a.rank = 1 := by
  cases a <;> first | rfl | cases number

/-- A float that is put beside two numbers without telling how these are
ordered. -/
inductive Blurs : Value → Value → Value → Prop
  | undefined {x : Binary64} {a c : Value} (nan : x.isNaN = true) (number : a.rank = 1)
      (number' : c.rank = 1) : Blurs (.float x) a c
  | nearest {x : Binary64} {m n : Int64} (different : m ≠ n)
      (left : Binary64.compare? (Binary64.ofInt64 m) x = some .eq)
      (right : Binary64.compare? x (Binary64.ofInt64 n) = some .eq) :
      Blurs (.float x) (.integer m) (.integer n)

/-- What blurs two numbers does so in either order. -/
theorem Blurs.symm (blurs : Blurs b a c) : Blurs b c a := by
  cases blurs with
  | undefined nan number number' => exact .undefined nan number' number
  | nearest different left right =>
      apply Blurs.nearest different.symm
      · rw [Binary64.compare?_swap, right]
        rfl
      · rw [Binary64.compare?_swap, left]
        rfl

/-- A number is not put after another one if one of them is NaN or their places
in the order of the floats allow it. -/
theorem sortCompare_ne_gt_iff (left : a.asFloat? = some x) (right : b.asFloat? = some y)
    (direct : a.compare? b = Binary64.compare? x y) :
    a.sortCompare b ≠ .gt ↔ x.isNaN = true ∨ y.isNaN = true ∨ x.orderKey ≤ y.orderKey := by
  unfold sortCompare
  rw [direct, rank_of_asFloat? left, rank_of_asFloat? right, Binary64.compare?]
  by_cases undefined : (x.isNaN || y.isNaN) = true
  · rw [if_pos undefined]
    rw [Bool.or_eq_true] at undefined
    exact iff_of_true (by decide) (undefined.imp id Or.inl)
  · rw [if_neg undefined]
    rw [Bool.or_eq_true, not_or] at undefined
    change compare x.orderKey y.orderKey ≠ .gt ↔ _
    rw [Ne, Int.compare_eq_gt, Int.not_lt]
    exact ⟨fun le => Or.inr (Or.inr le), fun either => (either.resolve_left undefined.1).resolve_left
      undefined.2⟩

theorem sortCompare_integers_ne_gt_iff {m n : Int64} :
    (integer m).sortCompare (integer n) ≠ .gt ↔ m.toInt ≤ n.toInt := by
  change compare m.toInt n.toInt ≠ .gt ↔ _
  rw [Ne, Int.compare_eq_gt, Int.not_lt]

/-- Where a number is not put after another one, neither are the floats that
they are compared as. -/
theorem orderKey_le_of_sortCompare (left : a.asFloat? = some x) (right : b.asFloat? = some y)
    (sorted : a.sortCompare b ≠ .gt) :
    x.isNaN = true ∨ y.isNaN = true ∨ x.orderKey ≤ y.orderKey := by
  rcases compare?_numbers left right with ⟨m, n, rfl, rfl⟩ | direct
  · cases left
    cases right
    rw [sortCompare_integers_ne_gt_iff] at sorted
    exact Or.inr (Or.inr (Binary64.orderKey_ofInt64_mono sorted))
  · exact (sortCompare_ne_gt_iff left right direct).mp sorted

/-- Integers are ordered through a float unless it is the nearest to both. -/
theorem integer_le_of_nearest {m n : Int64} {y : Binary64} (number : y.isNaN = false)
    (clear : ¬ Blurs (.float y) (.integer m) (.integer n))
    (first : (Binary64.ofInt64 m).orderKey ≤ y.orderKey)
    (second : y.orderKey ≤ (Binary64.ofInt64 n).orderKey) : m.toInt ≤ n.toInt := by
  by_contra above
  have back := Binary64.orderKey_ofInt64_mono (Int.not_le.mp above).le
  apply clear
  apply Blurs.nearest
  · intro same
    exact above (same ▸ le_refl _)
  · rw [Binary64.compare?_eq_some_eq_iff]
    exact ⟨Binary64.isNaN_ofInt64 m, number, le_antisymm first (second.trans back)⟩
  · rw [Binary64.compare?_eq_some_eq_iff]
    exact ⟨number, Binary64.isNaN_ofInt64 n, le_antisymm second (back.trans first)⟩

/-- The order of numbers is transitive where none blurs the others. -/
theorem sortCompare_trans_numbers (clear : ¬ Blurs b a c) (numbers : a.rank = 1)
    (numbers' : b.rank = 1) (numbers'' : c.rank = 1) (first : a.sortCompare b ≠ .gt)
    (second : b.sortCompare c ≠ .gt) : a.sortCompare c ≠ .gt := by
  obtain ⟨x, left⟩ := exists_asFloat? numbers
  obtain ⟨y, middle⟩ := exists_asFloat? numbers'
  obtain ⟨z, right⟩ := exists_asFloat? numbers''
  have number : y.isNaN = false := by
    cases b with
    | null | boolean _ | text _ => cases numbers'
    | integer n =>
        cases middle
        exact Binary64.isNaN_ofInt64 n
    | float y' =>
        cases middle
        rw [← Bool.not_eq_true]
        intro nan
        exact clear (.undefined nan numbers numbers'')
  have before := orderKey_le_of_sortCompare left middle first
  have after := orderKey_le_of_sortCompare middle right second
  rw [number] at before after
  simp only [Bool.false_eq_true, false_or] at before after
  rcases compare?_numbers left right with ⟨m, n, rfl, rfl⟩ | direct
  · cases left
    cases right
    rw [Binary64.isNaN_ofInt64] at before after
    simp only [Bool.false_eq_true, false_or] at before after
    rw [sortCompare_integers_ne_gt_iff]
    cases b with
    | null | boolean _ | text _ => cases numbers'
    | integer k =>
        rw [sortCompare_integers_ne_gt_iff] at first second
        exact first.trans second
    | float y' =>
        cases middle
        exact integer_le_of_nearest number clear before after
  · rw [sortCompare_ne_gt_iff left right direct]
    rcases before with undefined | before
    · exact Or.inl undefined
    · exact Or.inr (after.imp id before.trans)

/-! ### All values -/

/-- The order is transitive except through a float that blurs the other two
values. -/
theorem sortCompare_trans (clear : ¬ Blurs b a c) (first : a.sortCompare b ≠ .gt)
    (second : b.sortCompare c ≠ .gt) : a.sortCompare c ≠ .gt := by
  have kinds := rank_le_of_sortCompare first
  have kinds' := rank_le_of_sortCompare second
  by_cases apart : a.rank < c.rank
  · rw [sortCompare_of_rank_lt apart]
    decide
  · have same : a.rank = b.rank := by omega
    have same' : c.rank = b.rank := by omega
    cases b with
    | null =>
        cases a <;> cases same
        cases c <;> cases same'
        exact second
    | boolean q =>
        cases a <;> cases same
        cases c <;> cases same'
        rename_i p r
        cases p <;> cases q <;> cases r <;> first | assumption | decide
    | text t =>
        cases a <;> cases same
        cases c <;> cases same'
        exact compareText_trans first second
    | integer _ | float _ =>
        exact sortCompare_trans_numbers clear same rfl same' first second

/-- Values sorted as equal to one value are sorted as equal to each other,
except where that value blurs them. -/
theorem sortCompare_trans_eq (clear : ¬ Blurs b a c) (first : a.sortCompare b = .eq)
    (second : b.sortCompare c = .eq) : a.sortCompare c = .eq := by
  have onward : a.sortCompare c ≠ .gt :=
    sortCompare_trans clear (by rw [first]; decide) (by rw [second]; decide)
  have back : c.sortCompare a ≠ .gt := by
    apply sortCompare_trans fun blurs => clear blurs.symm
    · rw [sortCompare_swap b c, second]
      decide
    · rw [sortCompare_swap a b, first]
      decide
  rw [sortCompare_swap a c] at back
  cases found : a.sortCompare c with
  | eq => rfl
  | gt => exact absurd found onward
  | lt =>
      rw [found] at back
      exact absurd rfl back

/-- A value that blurs two others is sorted as equal to both, whatever their
order. -/
theorem Blurs.sortCompare_eq (blurs : Blurs b a c) :
    a.sortCompare b = .eq ∧ b.sortCompare c = .eq := by
  cases blurs with
  | undefined nan number number' =>
      rename_i x
      have beside : ∀ {d : Value}, d.rank = 1 → d.sortCompare (float x) = .eq := by
        intro d number
        cases d with
        | null | boolean _ | text _ => cases number
        | integer _ | float _ =>
            rw [sortCompare, compare?, Binary64.compare?, nan, Bool.or_true]
            rfl
      refine ⟨beside number, ?_⟩
      rw [sortCompare_swap c, beside number']
      rfl
  | nearest different left right =>
      rw [sortCompare, sortCompare, compare?, compare?, left, right]
      exact ⟨rfl, rfl⟩

/-- Being sorted no further up is transitive, except for two values in the wrong
order that are blurred by the one between them. -/
theorem sortCompare_trans_iff :
    (a.sortCompare b ≠ .gt → b.sortCompare c ≠ .gt → a.sortCompare c ≠ .gt) ↔
      ¬ (Blurs b a c ∧ a.sortCompare c = .gt) := by
  constructor
  · intro transitive ⟨blurs, above⟩
    obtain ⟨left, right⟩ := blurs.sortCompare_eq
    apply transitive _ _ above
    · rw [left]
      decide
    · rw [right]
      decide
  · intro clear first second above
    apply sortCompare_trans _ first second above
    intro blurs
    exact clear ⟨blurs, above⟩

/-- Being sorted as equal is transitive, except for two values in some order that
are blurred by the one between them. -/
theorem sortCompare_trans_eq_iff :
    (a.sortCompare b = .eq → b.sortCompare c = .eq → a.sortCompare c = .eq) ↔
      ¬ (Blurs b a c ∧ a.sortCompare c ≠ .eq) := by
  constructor
  · intro transitive ⟨blurs, apart⟩
    obtain ⟨left, right⟩ := blurs.sortCompare_eq
    exact apart (transitive left right)
  · intro clear first second
    by_cases blurs : Blurs b a c
    · by_contra apart
      exact clear ⟨blurs, apart⟩
    · exact sortCompare_trans_eq blurs first second

/-- Values are ordered from both sides the same way, and two of them that are not
in the order that a third one suggests are blurred by it. -/
theorem sortCompare_total (a b c : Value) :
    a.sortCompare a = .eq ∧ b.sortCompare a = (a.sortCompare b).swap ∧
      ((a.sortCompare b ≠ .gt → b.sortCompare c ≠ .gt → a.sortCompare c ≠ .gt) ↔
        ¬ (Blurs b a c ∧ a.sortCompare c = .gt)) ∧
      ((a.sortCompare b = .eq → b.sortCompare c = .eq → a.sortCompare c = .eq) ↔
        ¬ (Blurs b a c ∧ a.sortCompare c ≠ .eq)) :=
  ⟨sortCompare_self a, sortCompare_swap a b, sortCompare_trans_iff, sortCompare_trans_eq_iff⟩

/-- The integers around `2 ^ 53`, of which the last has no float of its own, on
both sides of the float in between. -/
theorem sortCompare_through_float :
    ¬ Blurs (.float ⟨0x4340000000000000⟩) (.integer 9007199254740991)
        (.integer 9007199254740993) ∧
      (integer 9007199254740991).sortCompare (.float ⟨0x4340000000000000⟩) = .lt ∧
      (float ⟨0x4340000000000000⟩).sortCompare (.integer 9007199254740993) = .eq ∧
      (integer 9007199254740991).sortCompare (.integer 9007199254740993) ≠ .gt := by
  have clear : ¬ Blurs (.float ⟨0x4340000000000000⟩) (.integer 9007199254740991)
      (.integer 9007199254740993) := by
    intro blurs
    cases blurs with
    | undefined nan _ _ =>
        revert nan
        decide
    | nearest _ left _ =>
        revert left
        decide +kernel
  have first : (integer 9007199254740991).sortCompare (.float ⟨0x4340000000000000⟩) = .lt := by
    decide +kernel
  have second : (float ⟨0x4340000000000000⟩).sortCompare (.integer 9007199254740993) = .eq := by
    decide +kernel
  refine ⟨clear, first, second, ?_⟩
  apply (sortCompare_total _ _ _).2.2.1.mpr fun blurred => clear blurred.1
  · rw [first]
    decide
  · rw [second]
    decide

/-- Two integers with one nearest float are put beside that float but not beside
each other, so that sorting is not transitive. -/
theorem sortCompare_not_total :
    ¬ ((∀ a : Value, a.sortCompare a = .eq) ∧
      (∀ a b : Value, b.sortCompare a = (a.sortCompare b).swap) ∧
      ∀ a b c : Value,
        (a.sortCompare b ≠ .gt → b.sortCompare c ≠ .gt → a.sortCompare c ≠ .gt) ∧
          (a.sortCompare b = .eq → b.sortCompare c = .eq → a.sortCompare c = .eq)) := by
  intro ⟨_, _, transitive⟩
  have same := (transitive (.integer 9007199254740993) (.float ⟨0x4340000000000000⟩)
    (.integer 9007199254740992)).2 (by decide +kernel) (by decide +kernel)
  revert same
  decide +kernel

end Value

end Relational
