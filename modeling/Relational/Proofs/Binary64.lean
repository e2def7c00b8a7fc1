import Mathlib.Algebra.Group.Nat.Defs
import Mathlib.Order.Monotone.Basic
import Relational.Binary64

/-!
# The order of numbers and of the integers they denote

The least positive number divides every finite one, and how often it does so
grows with the word.  Two numbers that denote integers are therefore ordered as
these integers are, so that an integer that a float holds exactly may be
compared as either.
-/

namespace Relational

/-- Two comparisons of integers agree if both orders are the same. -/
theorem compare_eq_compare {a b c d : Int} (less : a < b ↔ c < d) (greater : b < a ↔ d < c) :
    compare a b = compare c d := by
  rcases Int.lt_trichotomy a b with below | same | above
  · rw [Int.compare_eq_lt.mpr below, Int.compare_eq_lt.mpr (less.mp below)]
  · have same' : c = d := by omega
    rw [Int.compare_eq_eq.mpr same, Int.compare_eq_eq.mpr same']
  · rw [Int.compare_eq_gt.mpr above, Int.compare_eq_gt.mpr (greater.mp above)]

namespace Binary64

variable {x y : Binary64}

/-- How many times the least positive number goes into a finite magnitude. -/
def ticks (magnitude : Nat) : Nat :=
  if magnitude < 2 ^ 52 then magnitude
  else (2 ^ 52 + magnitude % 2 ^ 52) * 2 ^ (magnitude / 2 ^ 52 - 1)

/-- Greater magnitudes stand for more ticks. -/
theorem ticks_strictMono : StrictMono ticks := by
  intro m n below
  unfold ticks
  split
  · split
    · exact below
    · have one := Nat.one_le_two_pow (n := n / 2 ^ 52 - 1)
      calc m < 2 ^ 52 + n % 2 ^ 52 := by omega
        _ ≤ _ := Nat.le_mul_of_pos_right _ one
  · rename_i normal
    have normal' : ¬ n < 2 ^ 52 := by omega
    rw [if_neg normal']
    rcases Nat.eq_or_lt_of_le (Nat.div_le_div_right (c := 2 ^ 52) below.le) with same | apart
    · rw [same]
      refine Nat.mul_lt_mul_of_pos_right ?_ (Nat.two_pow_pos _)
      omega
    · -- One field further, the smallest significand outweighs the greatest one before.
      obtain ⟨gap, far⟩ : ∃ gap, n / 2 ^ 52 - 1 = m / 2 ^ 52 - 1 + 1 + gap :=
        ⟨n / 2 ^ 52 - 1 - (m / 2 ^ 52 - 1 + 1), by omega⟩
      calc (2 ^ 52 + m % 2 ^ 52) * 2 ^ (m / 2 ^ 52 - 1)
          < (2 ^ 52 * 2) * 2 ^ (m / 2 ^ 52 - 1) :=
            Nat.mul_lt_mul_of_pos_right (by omega) (Nat.two_pow_pos _)
        _ = 2 ^ 52 * 2 ^ (m / 2 ^ 52 - 1 + 1) := by rw [Nat.mul_assoc, ← Nat.pow_succ']
        _ ≤ (2 ^ 52 + n % 2 ^ 52) * 2 ^ (n / 2 ^ 52 - 1) :=
            Nat.mul_le_mul (Nat.le_add_right _ _)
              (Nat.pow_le_pow_right (by decide) (by omega))

/-- The ticks of a float are its significand, moved to the place that its exponent gives. -/
theorem ticks_magnitude (x : Binary64) :
    ticks x.magnitude = x.significand * 2 ^ (x.exponent + 1074).toNat := by
  unfold ticks significand exponent
  dsimp only
  by_cases small : x.magnitude < 2 ^ 52
  · have field : x.magnitude / 0x10000000000000 = 0 := Nat.div_eq_of_lt small
    have fraction : x.magnitude % 0x10000000000000 = x.magnitude := Nat.mod_eq_of_lt small
    rw [if_pos small, if_pos (show x.magnitude < 0x10000000000000 from small), if_pos field,
      fraction]
    exact (Nat.mul_one _).symm
  · have field : x.magnitude / 0x10000000000000 ≠ 0 := by omega
    rw [if_neg small, if_neg (show ¬ x.magnitude < 0x10000000000000 from small), if_neg field]
    congr 2
    omega

/-- The binary places of the least positive number. -/
def places : Nat :=
  1074

/-- A float of an integral magnitude has so many ticks times the ticks of one. -/
theorem ticks_of_integralMagnitude? {n : Nat} (denotes : x.integralMagnitude? = some n) :
    ticks x.magnitude = n * 2 ^ places := by
  rw [ticks_magnitude]
  unfold integralMagnitude? at denotes
  split at denotes
  · rename_i scale scaled
    cases denotes
    have shift : (Int.ofNat scale + 1074).toNat = scale + places := rfl
    rw [scaled, Nat.shiftLeft_eq, Nat.mul_assoc, shift, Nat.pow_add]
  · rename_i scale scaled
    split at denotes
    · rename_i divides
      cases denotes
      have range : -1074 ≤ x.exponent := by
        unfold exponent
        dsimp only
        split <;> omega
      have split_power : places = scale + 1 + (x.exponent + 1074).toNat := by
        unfold places
        omega
      have whole : x.significand = x.significand >>> (scale + 1) * 2 ^ (scale + 1) := by
        rw [Nat.shiftRight_eq_div_pow]
        rw [Nat.one_shiftLeft] at divides
        exact (Nat.div_mul_cancel (Nat.dvd_of_mod_eq_zero divides)).symm
      calc x.significand * 2 ^ (x.exponent + 1074).toNat
          = x.significand >>> (scale + 1) * 2 ^ (scale + 1) * 2 ^ (x.exponent + 1074).toNat := by
            rw [← whole]
        _ = x.significand >>> (scale + 1) * 2 ^ (scale + 1 + (x.exponent + 1074).toNat) := by
            rw [Nat.mul_assoc, ← Nat.pow_add]
        _ = _ := by rw [← split_power]
    · cases denotes

/-- Floats of integral magnitudes are ordered as these. -/
theorem magnitude_lt_iff {m n : Nat} (denotes : x.integralMagnitude? = some m)
    (denotes' : y.integralMagnitude? = some n) : x.magnitude < y.magnitude ↔ m < n := by
  rw [← ticks_strictMono.lt_iff_lt, ticks_of_integralMagnitude? denotes,
    ticks_of_integralMagnitude? denotes']
  exact Nat.mul_lt_mul_right (Nat.two_pow_pos places)

/-- A float of an integral magnitude is a zero exactly if the magnitude is. -/
theorem magnitude_eq_zero_iff {n : Nat} (denotes : x.integralMagnitude? = some n) :
    x.magnitude = 0 ↔ n = 0 := by
  rw [← ticks_strictMono.injective.eq_iff, ticks_of_integralMagnitude? denotes]
  change n * 2 ^ places = 0 ↔ n = 0
  rw [Nat.mul_eq_zero, or_iff_left (Nat.two_pow_pos places).ne']

/-- A float that denotes an integer is a number whose magnitude and sign are those of the
integer. -/
theorem exists_of_toInt? {a : Int} (denotes : x.toInt? = some a) : x.isNaN = false ∧
    ∃ n : Nat, x.integralMagnitude? = some n ∧ a = if x.isNegative then -(n : Int) else n := by
  unfold toInt? at denotes
  split at denotes
  · rename_i finite
    have bounded : x.magnitude < infiniteMagnitude := of_decide_eq_true finite
    refine ⟨decide_eq_false (Nat.not_lt.mpr bounded.le), ?_⟩
    cases integral : x.integralMagnitude? with
    | none =>
        rw [integral] at denotes
        cases denotes
    | some n =>
        rw [integral] at denotes
        exact ⟨n, rfl, (Option.some.inj denotes).symm⟩
  · cases denotes

/-- Numbers that denote integers are ordered as these are. -/
theorem compare?_of_toInt? {a b : Int} (denotes : x.toInt? = some a)
    (denotes' : y.toInt? = some b) : compare? x y = some (compare a b) := by
  obtain ⟨number, m, integral, rfl⟩ := exists_of_toInt? denotes
  obtain ⟨number', n, integral', rfl⟩ := exists_of_toInt? denotes'
  have less := magnitude_lt_iff integral integral'
  have greater := magnitude_lt_iff integral' integral
  have zero := magnitude_eq_zero_iff integral
  have zero' := magnitude_eq_zero_iff integral'
  unfold compare? orderKey
  rw [number, number']
  refine congrArg some (compare_eq_compare ?_ ?_) <;> split <;> split <;> omega

theorem neg_neg (x : Binary64) : -(-x) = x := by
  change Binary64.mk (x.bits ^^^ 0x8000000000000000 ^^^ 0x8000000000000000) = x
  rw [UInt64.xor_assoc, UInt64.xor_self, UInt64.xor_zero]

/-- The order of two numbers, seen from the other one. -/
theorem compare?_swap (x y : Binary64) : compare? y x = (compare? x y).map Ordering.swap := by
  unfold compare?
  rw [Bool.or_comm]
  split
  · rfl
  · rw [Option.map_some, Int.compare_swap]

end Binary64

end Relational
