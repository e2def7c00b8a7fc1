import Mathlib.Algebra.Order.Field.Rat
import Mathlib.Algebra.Order.Ring.Int
import Mathlib.Tactic.Ring
import Relational.Proofs.Binary64
import Relational.Proofs.Binary64.Nearest

/-!
# Numbers that are integers

A finite number is a rational, and it denotes an integer exactly if that rational
is one.  The numbers nearest to natural numbers stay in order up to infinity, so
the naturals whose nearest number is a given power of two form an interval.
-/

namespace Relational

namespace Binary64

open Float.Model

open UnpackedFloat (Sign)

variable {x : Binary64} {n : Nat} {a : Int}

/-! ### Exact values -/

/-- What a finite number is, exactly. -/
def value (x : Binary64) : ℚ :=
  (if x.isNegative then -1 else 1) * x.significand * 2 ^ x.exponent

theorem exponent_ge (x : Binary64) : -places ≤ x.exponent := by
  unfold exponent places
  dsimp only
  split <;> omega

/-- A float has an integral magnitude exactly if its ticks are so many times those of
one. -/
theorem integralMagnitude?_eq_some_iff :
    x.integralMagnitude? = some n ↔ ticks x.magnitude = n * 2 ^ places := by
  constructor
  · exact ticks_of_integralMagnitude?
  · intro whole
    cases denotes : x.integralMagnitude? with
    | some m =>
        rw [ticks_of_integralMagnitude? denotes] at whole
        rw [Nat.eq_of_mul_eq_mul_right (Nat.two_pow_pos places) whole]
    | none =>
        unfold integralMagnitude? at denotes
        split at denotes
        · cases denotes
        · rename_i scale scaled
          split at denotes
          · cases denotes
          · rename_i fractional
            apply absurd _ fractional
            have low := exponent_ge x
            have split_power : places = scale + 1 + (x.exponent + 1074).toNat := by
              unfold places at *
              omega
            rw [ticks_magnitude, split_power, Nat.pow_add, ← Nat.mul_assoc] at whole
            rw [Nat.eq_of_mul_eq_mul_right (Nat.two_pow_pos _) whole, Nat.one_shiftLeft]
            exact Nat.mul_mod_left _ _

/-- In ticks, every finite number is whole. -/
theorem value_mul (x : Binary64) :
    x.value * 2 ^ places = (if x.isNegative then -1 else 1) * (ticks x.magnitude : ℚ) := by
  have low := exponent_ge x
  obtain ⟨shift, shifted⟩ : ∃ shift : Nat, x.exponent + 1074 = shift :=
    ⟨(x.exponent + 1074).toNat, by unfold places at low; omega⟩
  have power : (2 : ℚ) ^ x.exponent * 2 ^ places = 2 ^ shift := by
    rw [← zpow_natCast, ← zpow_natCast, ← zpow_add₀ two_ne_zero, ← shifted]
    rfl
  rw [value, mul_assoc, power, ticks_magnitude, shifted, Int.toNat_natCast, mul_assoc]
  push_cast
  rfl

/-- A magnitude with a sign. -/
theorem exists_signed_iff (negative : Bool) {magnitude unit : Nat} (positive : 0 < unit) :
    (∃ n : Nat, magnitude = n * unit ∧ (if negative then -(n : Int) else n) = a) ↔
      (if negative then -1 else 1) * (magnitude : Int) = a * unit := by
  constructor
  · intro ⟨n, whole, signed⟩
    rw [whole, ← signed]
    split <;> push_cast <;> ring
  · intro signed
    have unit_pos : 0 < (unit : Int) := Int.natCast_pos.mpr positive
    cases negative with
    | false =>
        rw [if_neg Bool.false_ne_true, Int.one_mul] at signed
        have above : 0 ≤ a := nonneg_of_mul_nonneg_left (signed ▸ Int.natCast_nonneg _) unit_pos
        obtain ⟨n, rfl⟩ := Int.eq_ofNat_of_zero_le above
        exact ⟨n, by exact_mod_cast signed, rfl⟩
    | true =>
        rw [if_pos rfl, Int.neg_one_mul, ← Int.neg_neg a, Int.neg_mul, neg_inj] at signed
        have below : 0 ≤ -a := nonneg_of_mul_nonneg_left (signed ▸ Int.natCast_nonneg _) unit_pos
        obtain ⟨n, opposite⟩ := Int.eq_ofNat_of_zero_le below
        rw [opposite] at signed
        refine ⟨n, by exact_mod_cast signed, ?_⟩
        rw [if_pos rfl, ← opposite, Int.neg_neg]

/-- A number denotes an integer exactly if it is finite and that integer is its
value. -/
theorem toInt?_eq_some_iff : x.toInt? = some a ↔ x.isFinite ∧ x.value = a := by
  have scaled : x.value = a ↔
      (if x.isNegative then -1 else 1) * (ticks x.magnitude : ℤ) = a * (2 ^ places : ℕ) := by
    rw [← mul_left_inj' (pow_ne_zero places (two_ne_zero : (2 : ℚ) ≠ 0)), value_mul]
    split <;> norm_cast
  rw [scaled, ← exists_signed_iff x.isNegative (Nat.two_pow_pos places), toInt?]
  by_cases finite : x.isFinite
  · rw [if_pos finite, and_iff_right finite]
    cases integral : x.integralMagnitude? with
    | none =>
        apply iff_of_false nofun
        intro ⟨n, whole, signed⟩
        rw [integralMagnitude?_eq_some_iff.mpr whole] at integral
        cases integral
    | some m =>
        change some (if x.isNegative then -(m : Int) else m) = some a ↔ _
        constructor
        · intro signed
          exact ⟨m, integralMagnitude?_eq_some_iff.mp integral, Option.some.inj signed⟩
        · intro ⟨n, whole, signed⟩
          rw [integralMagnitude?_eq_some_iff.mpr whole] at integral
          cases integral
          exact congrArg some signed
  · rw [if_neg finite]
    exact iff_of_false nofun fun both => finite both.1

/-! ### Signs -/

theorem magnitude_neg (x : Binary64) : (-x).magnitude = x.magnitude := by
  change (x.bits ^^^ 0x8000000000000000).toNat % 2 ^ 63 = x.bits.toNat % 2 ^ 63
  rw [UInt64.toNat_xor, Nat.xor_mod_two_pow]
  exact Nat.xor_zero _

/-- Changing the sign changes the sign. -/
theorem isNegative_neg (x : Binary64) : (-x).isNegative = !x.isNegative := by
  have bounded := x.bits.toNat_lt
  have reversed : (x.bits ^^^ 0x8000000000000000).toNat / 2 ^ 63 = (x.bits.toNat / 2 ^ 63) ^^^ 1 := by
    rw [UInt64.toNat_xor, Nat.xor_div_two_pow]
    rfl
  change decide (2 ^ 63 ≤ (x.bits ^^^ 0x8000000000000000).toNat) = !decide (2 ^ 63 ≤ x.bits.toNat)
  by_cases negative : 2 ^ 63 ≤ x.bits.toNat
  · have one : x.bits.toNat / 2 ^ 63 = 1 := by omega
    rw [one, Nat.xor_self] at reversed
    rw [decide_eq_true negative, Bool.not_true, decide_eq_false_iff_not]
    omega
  · have zero : x.bits.toNat / 2 ^ 63 = 0 := by omega
    rw [zero, Nat.zero_xor] at reversed
    rw [decide_eq_false negative, Bool.not_false, decide_eq_true_iff]
    omega

/-- Changing the sign negates the exact value. -/
theorem value_neg (x : Binary64) : (-x).value = -x.value := by
  have significands : (-x).significand = x.significand := by
    unfold significand
    rw [magnitude_neg]
  have exponents : (-x).exponent = x.exponent := by
    unfold exponent
    rw [magnitude_neg]
  rw [value, value, significands, exponents, isNegative_neg]
  cases x.isNegative <;> simp

theorem isFinite_neg (x : Binary64) : (-x).isFinite = x.isFinite := by
  rw [isFinite, isFinite, magnitude_neg]

/-! ### The numbers nearest to natural numbers -/

/-- Packing a filled word gives the word with its sign, or an infinity if the word is too
great. -/
theorem Filled.toNat_pack {sign : Sign} {word : Nat} {x : UnpackedFloat}
    (filled : Filled sign word x) : (UnpackedFloat.pack .binary64 x).toNat =
      sign.toBitVec.toNat * 2 ^ 63 + min word infiniteMagnitude := by
  by_cases bounded : word < 2047 * 2 ^ 52
  · rw [(filled.normal bounded).toNat_pack]
    unfold infiniteMagnitude
    omega
  · obtain ⟨positive, least, most, low, place⟩ := filled
    rename_i mantissa exponent
    have overflows : 2 ^ Format.binary64.exponentBits ≤
        (exponent + Format.binary64.exponentBias + (52 : Nat)).toNat + 1 := by
      change 2 ^ 11 ≤ (exponent + (1023 : Nat) + (52 : Nat)).toNat + 1
      omega
    have infinite : UnpackedFloat.pack .binary64 (.finite sign mantissa exponent positive) =
        UnpackedFloat.packedInfinity .binary64 sign := if_pos overflows
    rw [infinite]
    have largest : min word infiniteMagnitude = 2047 * 2 ^ 52 := by
      unfold infiniteMagnitude
      omega
    rw [largest]
    cases sign <;> rfl

/-- The float that a natural number is turned into has the nearest word, or is infinite. -/
theorem toNat_bits_ofNat (n : Nat) :
    (ofNat n).bits.toNat = min (nearestWord n) infiniteMagnitude := by
  rcases Nat.eq_zero_or_pos n with rfl | positive
  · decide +kernel
  · obtain ⟨x, filled, packed⟩ := exists_filled_ofNat positive
    change (Float.ofNat n).toModel.toBits.toNat = _
    rw [packed]
    exact filled.toNat_pack.trans (Nat.zero_add _)

theorem magnitude_ofNat (n : Nat) : (ofNat n).magnitude = min (nearestWord n) infiniteMagnitude := by
  rw [magnitude, toNat_bits_ofNat]
  unfold infiniteMagnitude
  omega

/-- A natural number is turned into a float without a sign. -/
theorem isNegative_ofNat (n : Nat) : (ofNat n).isNegative = false := by
  rw [isNegative, toNat_bits_ofNat]
  unfold infiniteMagnitude
  apply decide_eq_false
  omega

/-! ### The end of the 64-bit integers -/

/-- The magnitude of the number `2 ^ 63`. -/
def limitMagnitude : Nat :=
  0x43E0000000000000

theorem ticks_limitMagnitude : ticks limitMagnitude = 2 ^ 63 * 2 ^ places := by
  decide +kernel

/-- A number not far beyond that limit is rounded to it. -/
theorem nearestWord_eq_limitMagnitude (least : 2 ^ 63 ≤ n) (most : n ≤ 2 ^ 63 + 1024) :
    nearestWord n = limitMagnitude := by
  have lower : nearestWord (2 ^ 63) = limitMagnitude := by decide +kernel
  have upper : nearestWord (2 ^ 63 + 1024) = limitMagnitude := by decide +kernel
  apply le_antisymm
  · rw [← upper]
    exact nearestWord_mono most
  · rw [← lower]
    exact nearestWord_mono least

/-- A number further beyond the limit is rounded to something greater. -/
theorem limitMagnitude_lt_nearestWord (beyond : 2 ^ 63 + 1024 < n) :
    limitMagnitude < nearestWord n := by
  have next : nearestWord (2 ^ 63 + 1025) = limitMagnitude + 1 := by decide +kernel
  have above := nearestWord_mono beyond
  rw [Nat.succ_eq_add_one, Nat.add_assoc, next] at above
  exact above

/-- A positive float is the limit exactly if its magnitude is that of the limit. -/
theorem value_eq_limit (positive : x.isNegative = false) :
    x.value = 2 ^ 63 ↔ x.magnitude = limitMagnitude := by
  rw [← ticks_strictMono.injective.eq_iff, ticks_limitMagnitude,
    ← mul_left_inj' (pow_ne_zero places (two_ne_zero : (2 : ℚ) ≠ 0)), value_mul, positive]
  norm_num
  norm_cast

/-- A positive float is beyond the limit exactly if its magnitude is. -/
theorem limit_lt_value (positive : x.isNegative = false) :
    2 ^ 63 < x.value ↔ limitMagnitude < x.magnitude := by
  rw [← ticks_strictMono.lt_iff_lt, ticks_limitMagnitude,
    ← mul_lt_mul_iff_left₀ (pow_pos (two_pos : (0 : ℚ) < 2) places), value_mul, positive]
  norm_num
  norm_cast

/-- What a number that is nearest to a natural number from `2 ^ 63` on looks
like. -/
structure NearBeyond (x : Binary64) (n : Nat) : Prop where
  positive : x.isNegative = false
  least : limitMagnitude ≤ x.magnitude
  reaches : x.magnitude = limitMagnitude ↔ n ≤ 2 ^ 63 + 1024

namespace NearBeyond

theorem value_eq_iff (near : x.NearBeyond n) : x.value = 2 ^ 63 ↔ n ≤ 2 ^ 63 + 1024 := by
  rw [value_eq_limit near.positive, near.reaches]

/-- What is near a number beyond the limit is not below it. -/
theorem le_value (near : x.NearBeyond n) : 2 ^ 63 ≤ x.value := by
  rcases near.least.eq_or_lt with same | beyond
  · exact ((value_eq_limit near.positive).mpr same.symm).ge
  · exact ((limit_lt_value near.positive).mpr beyond).le

theorem isFinite (near : x.NearBeyond n) (most : n ≤ 2 ^ 63 + 1024) : x.isFinite := by
  rw [Binary64.isFinite, near.reaches.mpr most]
  decide

end NearBeyond

/-- The float that a number beyond the limit is turned into is near it. -/
theorem ofNat_nearBeyond (least : 2 ^ 63 ≤ n) : NearBeyond (ofNat n) n := by
  have finite : limitMagnitude < infiniteMagnitude := by decide
  have magnitude := magnitude_ofNat n
  by_cases most : n ≤ 2 ^ 63 + 1024
  · rw [nearestWord_eq_limitMagnitude least most, min_eq_left finite.le] at magnitude
    exact ⟨isNegative_ofNat n, magnitude.ge, iff_of_true magnitude most⟩
  · have above := limitMagnitude_lt_nearestWord (Nat.lt_of_not_le most)
    have beyond : limitMagnitude < (ofNat n).magnitude := by
      rw [magnitude]
      exact lt_min above finite
    exact ⟨isNegative_ofNat n, beyond.le, iff_of_false beyond.ne' most⟩

/-- Infinity is near every number that is not rounded to the limit. -/
theorem infinity_nearBeyond (beyond : 2 ^ 63 + 1024 < n) : NearBeyond infinity n where
  positive := by decide
  least := by decide
  reaches := iff_of_false (by decide) (Nat.not_le.mpr beyond)

end Binary64

end Relational
