import Mathlib.Algebra.Order.Group.Nat
import Mathlib.Data.String.Basic
import Relational.Calendar.Iso
import Relational.Value.Order

/-!
# Fields of fixed width

A number written with a fixed count of digits is read back from them, and the order
of such texts is the order of the numbers.  Texts that start with fields of one width
are compared field by field.
-/

namespace Relational

/-- Numbers with a lower place are compared by the places above it first. -/
theorem compare_places {base high high' low low' : Nat} (within : low < base)
    (within' : low' < base) : compare (base * high + low) (base * high' + low') =
      (compare high high').then (compare low low') := by
  have apart {i j k l : Nat} (less : i < j) (inside : k < base) :
      base * i + k < base * j + l := by
    have step : base * (i + 1) ≤ base * j := Nat.mul_le_mul_left base less
    rw [Nat.mul_add_one] at step
    omega
  rcases Nat.lt_trichotomy high high' with less | rfl | greater
  · rw [Nat.compare_eq_lt.mpr less, Nat.compare_eq_lt.mpr (apart less within)]
    rfl
  · rw [Nat.compare_eq_eq.mpr (rfl : high = high), Ordering.eq_then]
    rcases Nat.lt_trichotomy low low' with less | rfl | greater
    · rw [Nat.compare_eq_lt.mpr less, Nat.compare_eq_lt]
      omega
    · rw [Nat.compare_eq_eq.mpr rfl, Nat.compare_eq_eq.mpr rfl]
    · rw [Nat.compare_eq_gt.mpr greater, Nat.compare_eq_gt]
      omega
  · rw [Nat.compare_eq_gt.mpr greater, Nat.compare_eq_gt.mpr (apart greater within')]
    rfl

/-! ### The order of texts -/

section

variable {c d : Char} {s t u v : List Char}

theorem compareText_self (s : String) : compareText s s = .eq := by
  simp [compareText, compareOfLessAndEq]

/-- Texts are compared by their first characters first. -/
theorem compareText_cons : compareText (String.ofList (c :: s)) (String.ofList (d :: t)) =
    (compare c.toNat d.toNat).then (compareText (String.ofList s) (String.ofList t)) := by
  unfold compareText compareOfLessAndEq
  simp only [String.lt_iff_toList_lt, String.toList_ofList, List.cons_lt_cons_iff,
    String.ofList_inj, List.cons.injEq]
  rcases Nat.lt_trichotomy c.toNat d.toNat with less | same | greater
  · have first : c < d := less
    rw [Nat.compare_eq_lt.mpr less, if_pos (Or.inl first)]
    rfl
  · obtain rfl : c = d := Char.toNat_inj.mp same
    rw [Nat.compare_eq_eq.mpr same, Ordering.eq_then]
    simp only [Char.lt_irrefl, true_and, false_or]
  · have apart : c ≠ d := fun same => Nat.ne_of_gt greater (congrArg Char.toNat same)
    have first : ¬c < d := Nat.not_lt_of_gt greater
    rw [Nat.compare_eq_gt.mpr greater, if_neg (by simp [first, apart]), if_neg (by simp [apart])]
    rfl

/-- Behind parts of one length the parts are compared first. -/
theorem compareText_append (same : s.length = t.length) :
    compareText (String.ofList (s ++ u)) (String.ofList (t ++ v)) =
      (compareText (String.ofList s) (String.ofList t)).then
        (compareText (String.ofList u) (String.ofList v)) := by
  induction s generalizing t with
  | nil =>
      rw [List.eq_nil_of_length_eq_zero same.symm, compareText_self, Ordering.eq_then]
      rfl
  | cons c s ih =>
      obtain ⟨d, t, rfl⟩ := List.exists_cons_of_length_eq_add_one same.symm
      rw [List.cons_append, List.cons_append, compareText_cons, compareText_cons,
        ih (Nat.succ.inj same), Ordering.then_assoc]

end

namespace DateTime

variable {width m n : Nat} {rest s t : List Char}

/-- The last digits of a number, as many as asked for. -/
def lastDigits : Nat → Nat → List Char
  | 0, _ => []
  | width + 1, n => lastDigits width (n / 10) ++ [(n % 10).digitChar]

theorem higher_lt (fits : n < 10 ^ (width + 1)) : n / 10 < 10 ^ width := by
  rw [Nat.pow_succ] at fits
  exact Nat.div_lt_of_lt_mul (by omega)

/-- A padded number has as many digits as asked for, if it has no more. -/
theorem padded_eq (pos : 0 < width) (fits : n < 10 ^ width) :
    padded width n = lastDigits width n := by
  induction width, pos using Nat.le_induction generalizing n with
  | base =>
      have single : n < 10 := fits
      rw [padded, Nat.toDigits_of_lt_base single, lastDigits, lastDigits, Nat.mod_eq_of_lt single]
      rfl
  | succ width pos ih =>
      rw [lastDigits, ← ih (higher_lt fits)]
      -- A number of one digit is padded by one zero more than the zero above it.
      by_cases single : n < 10
      · obtain ⟨width, rfl⟩ := Nat.exists_eq_add_of_le' pos
        rw [padded, padded, Nat.div_eq_of_lt single, Nat.mod_eq_of_lt single,
          Nat.toDigits_of_lt_base single, Nat.toDigits_of_lt_base (by decide)]
        exact congrArg (· ++ _) (List.replicate_succ' (n := width) (a := '0'))
      · rw [padded, padded, Nat.toDigits_of_base_le (by decide) (Nat.le_of_not_lt single),
          List.length_append, List.length_singleton, Nat.add_sub_add_right, List.append_assoc]

@[simp]
theorem length_lastDigits (width n : Nat) : (lastDigits width n).length = width := by
  induction width generalizing n with
  | zero => rfl
  | succ width ih => rw [lastDigits, List.length_append, ih, List.length_singleton]

theorem isEmpty_lastDigits (width n : Nat) : (lastDigits (width + 1) n).isEmpty = false := by
  rw [← Bool.not_eq_true, List.isEmpty_iff_length_eq_zero, length_lastDigits]
  exact Nat.succ_ne_zero width

/-- The last digits of a number are digits. -/
theorem isDigit_of_mem_lastDigits : ∀ c ∈ lastDigits width n, c.isDigit = true := by
  induction width generalizing n with
  | zero => exact nofun
  | succ width ih =>
      intro c member
      rcases List.mem_append.mp member with before | last
      · exact ih c before
      · rw [List.mem_singleton.mp last]
        rw [Nat.isDigit_digitChar]
        exact decide_eq_true (Nat.mod_lt n (by decide))

theorem toNat_digitChar : ∀ i < 10, i.digitChar.toNat - '0'.toNat = i := by
  decide

/-- The number is read back from its digits. -/
theorem valueOf_lastDigits (fits : n < 10 ^ width) : Decimal.valueOf (lastDigits width n) = n := by
  induction width generalizing n with
  | zero => exact (Nat.lt_one_iff.mp fits).symm
  | succ width ih =>
      have value := ih (higher_lt fits)
      unfold Decimal.valueOf at value ⊢
      rw [lastDigits, Nat.ofDigitChars_append, value, Nat.ofDigitChars_cons, Nat.ofDigitChars_nil,
        toNat_digitChar _ (Nat.mod_lt n (by decide)), Nat.div_add_mod]

theorem compare_digitChar : ∀ i < 10, ∀ j < 10,
    compare i.digitChar.toNat j.digitChar.toNat = compare i j := by
  decide

/-- The order of digits is the order of the numbers. -/
theorem compareText_lastDigits (fits : m < 10 ^ width) (fits' : n < 10 ^ width) :
    compareText (String.ofList (lastDigits width m)) (String.ofList (lastDigits width n)) =
      compare m n := by
  induction width generalizing m n with
  | zero =>
      rw [Nat.lt_one_iff.mp fits, Nat.lt_one_iff.mp fits']
      exact compareText_self _
  | succ width ih =>
      have low {k : Nat} : k % 10 < 10 := Nat.mod_lt k (by decide)
      have places : compare (10 * (m / 10) + m % 10) (10 * (n / 10) + n % 10) =
          (compare (m / 10) (n / 10)).then (compare (m % 10) (n % 10)) :=
        compare_places low low
      rw [Nat.div_add_mod, Nat.div_add_mod] at places
      rw [lastDigits, lastDigits, compareText_append (by simp), ih (higher_lt fits) (higher_lt fits'),
        compareText_cons, compareText_self, compare_digitChar _ low _ low, places]
      cases compare (m % 10) (n % 10) <;> rfl

/-- Fields of one width in front of one separator are compared first. -/
theorem compareText_field (separator : Char) (fits : m < 10 ^ width) (fits' : n < 10 ^ width) :
    compareText (String.ofList (lastDigits width m ++ separator :: s))
        (String.ofList (lastDigits width n ++ separator :: t)) =
      (compare m n).then (compareText (String.ofList s) (String.ofList t)) := by
  rw [compareText_append (by simp), compareText_lastDigits fits fits', compareText_cons,
    Nat.compare_eq_eq.mpr rfl, Ordering.eq_then]

end DateTime

end Relational
