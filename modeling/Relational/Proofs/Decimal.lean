import Mathlib.Algebra.Group.Nat.Defs
import Relational.Decimal.Shortest

/-!
# Shortest decimals have a leading digit

The decimal that writes a number other than zero is not zero itself: zero does
not read back to the number, and on the finest grid that is tried, which is
never coarser than the number, the number lies above the first step.
-/

namespace Relational

namespace Decimal

namespace Target

variable {target : Target}

theorem scaled_pos (k : Int) {quarters : Nat} (positive : 0 < quarters) :
    0 < target.scaled k quarters := by
  rw [scaled, Nat.shiftLeft_eq]
  exact Nat.mul_pos (Nat.mul_pos positive (Nat.two_pow_pos _)) (Nat.pow_pos (by decide))

/-- Zero lies outside of the interval of a number other than zero. -/
theorem accepts_zero (positive : 0 < target.significand) (narrow : target.lowerGap ≤ 2) (k : Int) :
    target.accepts k 0 = false := by
  have lower : 0 < target.scaled k (4 * target.significand - target.lowerGap) :=
    scaled_pos k (by omega)
  unfold accepts
  simp [Nat.ne_of_gt lower]

/-- The nearest point of a grid is one that reads back. -/
theorem accepts_of_nearest? {tie : TieRule} {k : Int} {point : Nat}
    (found : target.nearest? tie k = some point) : target.accepts k point = true := by
  unfold nearest? at found
  dsimp only at found
  split at found
  · cases found
  · cases found
    assumption
  · cases found
    assumption
  · split at found
    · cases found
      assumption
    · split at found
      · cases found
        assumption
      · split at found <;> cases found <;> assumption

/-- A search for the coarsest grid yields a decimal other than zero, if the last
grid that is tried has a point other than zero below the number. -/
theorem refine_ne_zero {tie : TieRule} (positive : 0 < target.significand)
    (narrow : target.lowerGap ≤ 2) (finer : Nat) (k : Int)
    (fine : target.gridStep (k - finer) ≤ target.scaled (k - finer) (4 * target.significand))
    (some_step : 0 < target.gridStep (k - finer)) :
    (target.refine tie finer k).digits ≠ 0 := by
  induction finer generalizing k with
  | zero =>
      rw [Int.natCast_zero, Int.sub_zero] at fine some_step
      exact Nat.ne_of_gt (Nat.div_pos fine some_step)
  | succ finer ih =>
      have shifted : k - ((finer + 1 : Nat) : Int) = k - 1 - (finer : Int) := by omega
      rw [shifted] at fine some_step
      rw [refine]
      split
      · rename_i point found
        rintro (rfl : point = 0)
        have accepted := accepts_of_nearest? found
        rw [accepts_zero positive narrow] at accepted
        cases accepted
      · exact ih (k - 1) fine some_step

theorem gridStep_pos (k : Int) : 0 < target.gridStep k := by
  rw [gridStep, Nat.shiftLeft_eq]
  exact Nat.mul_pos (Nat.pow_pos (by decide)) (Nat.two_pow_pos _)

/-! ### The finest grid -/

/-- Powers of ten that stay below a power of two, as far as binary64 numbers
reach. -/
theorem ten_pow_le_two_pow : ∀ n < 1024, 10 ^ (n * 30103 / 100000 - 19) ≤ 2 ^ n := by
  decide +kernel

theorem two_pow_le_ten_pow : ∀ n < 1075, 2 ^ n ≤ 10 ^ (n * 30103 / 100000 + 19) := by
  decide +kernel

/-- A grid step of the twentieth grid behind the coarsest is at most the power
of two below the number. -/
theorem gridStep_le_scaled (positive : 0 < target.significand)
    (above : -1074 ≤ (target.significand.log2 : Int) + target.exponent)
    (below : (target.significand.log2 : Int) + target.exponent < 1024) :
    target.gridStep (target.coarsest - 20) ≤
      target.scaled (target.coarsest - 20) (4 * target.significand) := by
  have leading : 2 ^ (target.significand.log2 + 2) ≤ 4 * target.significand := by
    have := Nat.log2_self_le (Nat.ne_of_gt positive)
    rw [Nat.pow_add]
    omega
  rw [gridStep, scaled, Nat.shiftLeft_eq, Nat.shiftLeft_eq]
  refine Nat.le_trans ?_ (Nat.mul_le_mul_right _ (Nat.mul_le_mul_right _ leading))
  rw [← Nat.pow_add]
  change 10 ^ _ * 2 ^ _ ≤ 2 ^ _ * 10 ^ _
  rw [coarsest]
  rcases Int.lt_or_le ((target.significand.log2 : Int) + target.exponent) 0 with small | large
  · -- Below one the grid is as fine as a negative power of ten.
    obtain ⟨n, depth⟩ : ∃ n : Nat, (target.significand.log2 : Int) + target.exponent = -n :=
      ⟨((target.significand.log2 : Int) + target.exponent).natAbs, by omega⟩
    rw [depth]
    have none : (-(n : Int) * 30103 / 100000 + 1 - 20).toNat = 0 := by omega
    rw [none, Nat.pow_zero, Nat.one_mul]
    calc 2 ^ (2 - target.exponent).toNat
        = 2 ^ (target.significand.log2 + 2 + (target.exponent - 2).toNat) * 2 ^ n := by
          rw [← Nat.pow_add]
          congr 1
          omega
      _ ≤ _ := by
          refine Nat.mul_le_mul_left _ (Nat.le_trans (two_pow_le_ten_pow n (by omega)) ?_)
          exact Nat.pow_le_pow_right (by decide) (by omega)
  · obtain ⟨n, height⟩ : ∃ n : Nat, (target.significand.log2 : Int) + target.exponent = n :=
      ⟨((target.significand.log2 : Int) + target.exponent).natAbs, by omega⟩
    rw [height]
    refine Nat.le_trans ?_ (Nat.le_mul_of_pos_right _ (Nat.pow_pos (by decide)))
    calc 10 ^ ((n : Int) * 30103 / 100000 + 1 - 20).toNat * 2 ^ (2 - target.exponent).toNat
        ≤ 2 ^ n * 2 ^ (2 - target.exponent).toNat := by
          refine Nat.mul_le_mul_right _ (Nat.le_trans ?_ (ten_pow_le_two_pow n (by omega)))
          exact Nat.pow_le_pow_right (by decide) (by omega)
      _ = _ := by
          rw [← Nat.pow_add]
          congr 1
          omega

end Target

/-! ### Numbers -/

/-- The shortest decimal of a finite number other than zero is not zero. -/
theorem shortest_digits_ne_zero (tie : TieRule) {x : Binary64} (finite : x.isFinite = true)
    (nonzero : x.magnitude ≠ 0) : (shortest tie x).digits ≠ 0 := by
  have bounded : x.magnitude < 0x7FF0000000000000 := of_decide_eq_true finite
  have positive : 0 < x.significand := by
    unfold Binary64.significand
    dsimp only
    split <;> omega
  have narrow : (Target.ofBinary64 x).lowerGap ≤ 2 := by
    unfold Target.ofBinary64
    dsimp only
    split <;> decide
  have below_all : x.significand.log2 < 53 := by
    rw [Nat.log2_lt (Nat.ne_of_gt positive)]
    unfold Binary64.significand
    dsimp only
    split <;> omega
  have range : -1074 ≤ x.exponent ∧ x.exponent ≤ 971 := by
    unfold Binary64.exponent
    dsimp only
    split <;> omega
  refine Target.refine_ne_zero positive narrow 20 _ ?_ (Target.gridStep_pos _)
  exact Target.gridStep_le_scaled positive
    (show -1074 ≤ (x.significand.log2 : Int) + x.exponent by omega)
    (show (x.significand.log2 : Int) + x.exponent < 1024 by omega)

end Decimal

end Relational
