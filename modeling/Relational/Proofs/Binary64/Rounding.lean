import Relational.Proofs.Binary64

/-!
# Integers round to numbers

The number nearest to an integer is never NaN.  Rounding works on unpacked
numbers, of which only the one that stands for NaN is packed into the word of a
NaN, and none of the steps that round an integer leads there.
-/

namespace Relational

namespace Binary64

open Float.Model

/-! ### Words of NaNs -/

/-- A word is unpacked to NaN if its exponent is full and its fraction is not
zero. -/
theorem unpack_eq_notANumber_iff (word : BitVec 64) :
    UnpackedFloat.unpack .binary64 word = .notANumber ↔
      @UnpackedFloat.unpackExponent .binary64 word = -1 ∧
        @UnpackedFloat.unpackMantissa .binary64 word ≠ 0 := by
  unfold UnpackedFloat.unpack
  dsimp only
  by_cases full : @UnpackedFloat.unpackExponent .binary64 word = -1#11
  · rw [if_pos full]
    by_cases zero : @UnpackedFloat.unpackMantissa .binary64 word = 0#52
    · rw [if_pos zero]
      exact iff_of_false UnpackedFloat.noConfusion fun both => both.2 zero
    · rw [if_neg zero]
      exact iff_of_true rfl ⟨full, zero⟩
  · rw [if_neg full]
    refine iff_of_false ?_ fun both => full both.1
    by_cases empty : @UnpackedFloat.unpackExponent .binary64 word = 0#11
    · rw [if_pos empty]
      by_cases zero : @UnpackedFloat.unpackMantissa .binary64 word = 0#52
      · rw [dif_pos zero]
        exact UnpackedFloat.noConfusion
      · rw [dif_neg zero]
        exact UnpackedFloat.noConfusion
    · rw [if_neg empty]
      exact UnpackedFloat.noConfusion

/-- A float is undefined exactly if its word unpacks to no number. -/
theorem isNaN_iff_unpack (x : Binary64) :
    x.isNaN = true ↔ UnpackedFloat.unpack .binary64 x.bits.toBitVec = .notANumber := by
  rw [unpack_eq_notANumber_iff, ne_eq, BitVec.toNat_eq, BitVec.toNat_eq]
  unfold isNaN magnitude infiniteMagnitude UnpackedFloat.unpackExponent UnpackedFloat.unpackMantissa
  simp [Nat.shiftRight_eq_div_pow]
  omega

/-- Only NaN is packed into the word of one. -/
theorem unpack_pack_ne {x : UnpackedFloat} (number : x ≠ .notANumber) :
    UnpackedFloat.unpack .binary64 (UnpackedFloat.pack .binary64 x) ≠ .notANumber := by
  have ordinary : ∀ (sign : UnpackedFloat.Sign) (exponent : BitVec 11) (fraction : BitVec 52),
      exponent ≠ -1 ∨ fraction = 0 → UnpackedFloat.unpack .binary64
        (UnpackedFloat.packComponents .binary64 sign exponent fraction) ≠ .notANumber := by
    intro sign exponent fraction either undefined
    rw [unpack_eq_notANumber_iff, UnpackedFloat.unpackExponent_packComponents,
      UnpackedFloat.unpackMantissa_packComponents] at undefined
    exact either.elim (fun other => other undefined.1) undefined.2
  cases x with
  | notANumber => exact absurd rfl number
  | infinity sign => exact ordinary sign _ _ (.inr rfl)
  | zero sign => exact ordinary sign _ _ (.inr rfl)
  | finite sign mantissa exponent positive =>
      unfold UnpackedFloat.pack
      dsimp only
      split
      · exact ordinary sign _ _ (.inr rfl)
      · rename_i below
        split
        · -- The exponent is below the full one, which only infinities and NaNs have.
          refine ordinary sign _ _ (.inl fun full => below ?_)
          have word := congrArg BitVec.toNat full
          rw [BitVec.toNat_ofNat] at word
          change _ % 2048 = 2047 at word
          omega
        · exact ordinary sign _ _ (.inl (by decide))

/-! ### Rounding -/

/-- Rounding never gives an undefined float. -/
theorem roundWithAccuracy_ne (sign : UnpackedFloat.Sign) (mantissa : Nat) (exponent : Int)
    (accuracy : UnpackedFloat.Accuracy) :
    UnpackedFloat.roundWithAccuracy .binary64 sign mantissa exponent accuracy ≠ .notANumber := by
  unfold UnpackedFloat.roundWithAccuracy
  dsimp only
  intro undefined
  rcases dite_eq_iff.mp undefined with ⟨_, same⟩ | ⟨_, same⟩
  · cases same
  · cases same

/-- Normalizing never gives an undefined float. -/
theorem normalize_ne (mantissa exponent : Int) (sign : UnpackedFloat.Sign) :
    UnpackedFloat.normalize .binary64 mantissa exponent sign ≠ .notANumber := by
  unfold UnpackedFloat.normalize UnpackedFloat.round
  split
  · apply roundWithAccuracy_ne
  · exact UnpackedFloat.noConfusion
  · apply roundWithAccuracy_ne

/-- A number times a finite one other than zero is a number. -/
theorem mul_finite_ne {x : UnpackedFloat} (number : x ≠ .notANumber) (sign : UnpackedFloat.Sign)
    (mantissa : Nat) (exponent : Int) (positive : 0 < mantissa) :
    UnpackedFloat.mul .binary64 x (.finite sign mantissa exponent positive) ≠ .notANumber := by
  cases x with
  | notANumber => exact absurd rfl number
  | infinity _ => exact UnpackedFloat.noConfusion
  | zero _ => exact UnpackedFloat.noConfusion
  | finite _ _ _ _ => apply roundWithAccuracy_ne

/-- The negative of a number is a number. -/
theorem neg_ne {x : UnpackedFloat} (number : x ≠ .notANumber) : x.neg ≠ .notANumber := by
  cases x with
  | notANumber => exact absurd rfl number
  | infinity _ => exact UnpackedFloat.noConfusion
  | zero _ => exact UnpackedFloat.noConfusion
  | finite _ _ _ _ => exact UnpackedFloat.noConfusion

/-- A numeral without a fraction denotes a number. -/
theorem ofScientific_ne (digits : Nat) {power : Int} (whole : 0 ≤ power) :
    UnpackedFloat.ofScientific .binary64 digits power ≠ .notANumber := by
  unfold UnpackedFloat.ofScientific
  intro undefined
  rcases dite_eq_iff.mp undefined with ⟨_, same⟩ | ⟨_, undefined⟩
  · cases same
  rcases ite_eq_iff.mp undefined with ⟨_, same⟩ | ⟨_, undefined⟩
  · cases same
  rcases ite_eq_iff.mp undefined with ⟨_, same⟩ | ⟨_, undefined⟩
  · cases same
  rw [if_pos whole] at undefined
  exact mul_finite_ne UnpackedFloat.noConfusion _ _ _ _ undefined

/-- A natural number is turned into a number. -/
theorem unpack_ofNat_ne (n : Nat) : (Float.ofNat n).toModel.unpack ≠ .notANumber := by
  change (Float.ofScientific n false 0).toModel.unpack ≠ .notANumber
  unfold Float.ofScientific
  split
  · have one : (Float.exactlyRepresentablePowersOfTen[0]).toModel.unpack =
        .finite .positive (2 ^ 52) (-52) (by decide) := rfl
    apply unpack_pack_ne
    change UnpackedFloat.mul .binary64 n.toUInt64.toFloat.toModel.unpack
      (Float.exactlyRepresentablePowersOfTen[0]).toModel.unpack ≠ .notANumber
    rw [one]
    apply mul_finite_ne
    apply unpack_pack_ne
    apply normalize_ne
  · apply unpack_pack_ne
    exact ofScientific_ne n (le_refl 0)

/-- The number nearest to an integer is a number. -/
theorem isNaN_ofInt64 (n : Int64) : (ofInt64 n).isNaN = false := by
  rw [← Bool.not_eq_true, isNaN_iff_unpack]
  unfold ofInt64 ofFloat
  cases n.toInt with
  | ofNat n => exact unpack_ofNat_ne n
  | negSucc n =>
      apply unpack_pack_ne
      exact neg_ne (unpack_ofNat_ne n.succ)

/-- A finite float is a number. -/
theorem isNaN_of_isFinite {x : Binary64} (finite : x.isFinite = true) : x.isNaN = false := by
  unfold isFinite at finite
  unfold isNaN
  rw [decide_eq_true_eq] at finite
  exact decide_eq_false (Nat.not_lt.mpr finite.le)

end Binary64

end Relational
