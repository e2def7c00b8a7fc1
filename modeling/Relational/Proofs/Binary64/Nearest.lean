import Relational.Proofs.Binary64.Rounding

/-!
# The nearest numbers keep the order of the integers

Rounding to 53 bits drops the bits below them one at a time and remembers of
these a half and whether anything was left.  Counted in quarters of the last
place, every such step is monotone, and so is the choice of the nearest
significand at the end.  The word of the number nearest to an integer is then
monotone in the integer: within one binade by its significand, and across
binades because no significand leaves its own by more than the next power of
two.
-/

namespace Relational

namespace Binary64

open Float.Model

open UnpackedFloat (ExtendedMantissa Sign)

/-! ### Dropping bits -/

/-- A significand with its residual bits, counted in quarters of its last place:
less than a half counts as a quarter, and more than a half as three. -/
def quarters (significand : ExtendedMantissa) : Nat :=
  4 * significand.mantissa + 2 * significand.roundBit.toNat + significand.stickyBit.toNat

/-- Shifting by one bit halves the quarters and remembers whether anything was lost. -/
theorem quarters_shiftRightOne (significand : ExtendedMantissa) :
    quarters significand.shiftRightOne =
      2 * (quarters significand / 4) + min 1 (quarters significand % 4) := by
  obtain ⟨mantissa, half, rest⟩ := significand
  unfold quarters ExtendedMantissa.shiftRightOne
  rcases Nat.mod_two_eq_zero_or_one mantissa with even | odd
  · cases half <;> cases rest <;> simp [even] <;> omega
  · cases half <;> cases rest <;> simp [odd] <;> omega

/-- Ties go up from odd places only, so a place that is left with a tie is left
with three quarters as well. -/
theorem roundedMantissa_mono {a b : ExtendedMantissa} (le : quarters a ≤ quarters b) :
    a.roundedMantissa ≤ b.roundedMantissa := by
  obtain ⟨m, half, rest⟩ := a
  obtain ⟨n, half', rest'⟩ := b
  cases half <;> cases rest <;> cases half' <;> cases rest' <;>
    simp [quarters, ExtendedMantissa.roundedMantissa, ExtendedMantissa.accuracy,
      UnpackedFloat.Accuracy.roundToNearestEven] at le ⊢ <;> omega

/-- Rounding a mantissa adds at most one to it. -/
theorem roundedMantissa_bounds (significand : ExtendedMantissa) :
    significand.mantissa ≤ significand.roundedMantissa ∧
      significand.roundedMantissa ≤ significand.mantissa + 1 := by
  obtain ⟨mantissa, half, rest⟩ := significand
  cases half <;> cases rest <;>
    simp [ExtendedMantissa.roundedMantissa, ExtendedMantissa.accuracy,
      UnpackedFloat.Accuracy.roundToNearestEven]
  omega

theorem shiftRight_succ (significand : ExtendedMantissa) (count : Nat) :
    significand >>> (count + 1) = (significand >>> count).shiftRightOne :=
  rfl

/-- Shifting by one bit more is shifting by one bit at the start. -/
theorem shiftRight_succ' (significand : ExtendedMantissa) (count : Nat) :
    significand >>> (count + 1) = significand.shiftRightOne >>> count := by
  induction count with
  | zero => rfl
  | succ count ih => rw [shiftRight_succ, ih, shiftRight_succ]

/-- The mantissa is divided by a power of two when it is shifted. -/
theorem mantissa_shiftRight (significand : ExtendedMantissa) (count : Nat) :
    (significand >>> count).mantissa = significand.mantissa / 2 ^ count := by
  induction count with
  | zero => exact (Nat.div_one _).symm
  | succ count ih =>
      change (significand >>> count).mantissa / 2 = _
      rw [ih, Nat.div_div_eq_div_mul, Nat.pow_succ]

/-- Shifting keeps the order of the quarters. -/
theorem quarters_shiftRight_mono {a b : ExtendedMantissa} (le : quarters a ≤ quarters b)
    (count : Nat) : quarters (a >>> count) ≤ quarters (b >>> count) := by
  induction count with
  | zero => exact le
  | succ count ih =>
      rw [shiftRight_succ, shiftRight_succ, quarters_shiftRightOne, quarters_shiftRightOne]
      omega

/-! ### The nearest significand -/

/-- A natural number without its last bits, rounded to nearest, ties to even. -/
def nearest (count n : Nat) : Nat :=
  (ExtendedMantissa.ofMantissaAndAccuracy n .exact >>> count).roundedMantissa

/-- Rounding at a fixed place keeps the order. -/
theorem nearest_mono (count : Nat) {m n : Nat} (le : m ≤ n) :
    nearest count m ≤ nearest count n := by
  have start : quarters (.ofMantissaAndAccuracy m .exact) ≤
      quarters (.ofMantissaAndAccuracy n .exact) := by
    unfold quarters ExtendedMantissa.ofMantissaAndAccuracy
    dsimp only
    omega
  exact roundedMantissa_mono (quarters_shiftRight_mono start count)

/-- Zeros at the end may be dropped beforehand. -/
theorem nearest_add (count zeros n : Nat) :
    nearest (count + zeros) (n * 2 ^ zeros) = nearest count n := by
  induction zeros with
  | zero => rw [Nat.pow_zero, Nat.mul_one, Nat.add_zero]
  | succ zeros ih =>
      rw [← ih, nearest, nearest, ← Nat.add_assoc, shiftRight_succ', Nat.pow_succ, ← Nat.mul_assoc]
      congr 2
      simp [ExtendedMantissa.shiftRightOne, ExtendedMantissa.ofMantissaAndAccuracy]

/-- Rounding moves a significand of 53 bits at most to the next power of two. -/
theorem nearest_bounds (count : Nat) {n : Nat} (positive : 0 < n) (bits : n.log2 = 52 + count) :
    2 ^ 52 ≤ nearest count n ∧ nearest count n ≤ 2 ^ 53 := by
  have kept : (ExtendedMantissa.ofMantissaAndAccuracy n .exact >>> count).mantissa = n / 2 ^ count :=
    mantissa_shiftRight _ _
  have least : 2 ^ 52 ≤ n / 2 ^ count := by
    rw [Nat.le_div_iff_mul_le (Nat.two_pow_pos count), ← Nat.pow_add, ← bits]
    exact Nat.log2_self_le positive.ne'
  have most : n / 2 ^ count < 2 ^ 53 := by
    have below : n < 2 ^ (n.log2 + 1) := Nat.lt_log2_self
    rw [Nat.div_lt_iff_lt_mul (Nat.two_pow_pos count), ← Nat.pow_add]
    rwa [bits, show 52 + count + 1 = 53 + count by omega] at below
  obtain ⟨above, below⟩ := roundedMantissa_bounds
    (ExtendedMantissa.ofMantissaAndAccuracy n .exact >>> count)
  rw [kept] at above below
  exact ⟨least.trans above, below.trans most⟩

/-! ### Rounding -/

/-- The place that rounding leaves a number at: one that its 53 bits reach down to,
or that of the smallest unit. -/
theorem targetExponent_eq (mantissa : Nat) (exponent : Int) :
    Format.binary64.targetExponent (totalExponent mantissa exponent) =
      max (mantissa.log2 + 1 + exponent - 53) (-1074) := rfl

/-- A number of too many bits is shifted by just those, unless its exponent is too low. -/
theorem shiftToTargetExponent_eq {mantissa : Nat} (count : Nat) {exponent : Int}
    (bits : mantissa.log2 = 52 + count) (low : -1074 ≤ exponent + count) :
    UnpackedFloat.shiftToTargetExponent .binary64 mantissa exponent .exact =
      (ExtendedMantissa.ofMantissaAndAccuracy mantissa .exact >>> count, exponent + count) := by
  have target : Format.binary64.targetExponent (totalExponent mantissa exponent) =
      exponent + count := by
    rw [targetExponent_eq, bits]
    omega
  have dropped : (exponent + count - exponent).toNat = count := by omega
  simp only [UnpackedFloat.shiftToTargetExponent, UnpackedFloat.shiftToExponent, target, dropped]

/-- A finite number whose significand fills its 53 bits, and the word that its
magnitude is packed into, if its exponent is small enough for that. -/
inductive Filled (sign : Sign) (word : Nat) : UnpackedFloat → Prop
  | finite {mantissa : Nat} {exponent : Int} (positive : 0 < mantissa)
      (least : 2 ^ 52 ≤ mantissa) (most : mantissa < 2 ^ 53)
      (low : -1074 ≤ exponent)
      (place : word = (exponent + 1074).toNat * 2 ^ 52 + mantissa) :
      Filled sign word (.finite sign mantissa exponent positive)

/-- A finite number whose significand fills its 53 bits, and the word that its
magnitude is packed into. -/
inductive Normal (sign : Sign) (word : Nat) : UnpackedFloat → Prop
  | finite {mantissa : Nat} {exponent : Int} (positive : 0 < mantissa)
      (least : 2 ^ 52 ≤ mantissa) (most : mantissa < 2 ^ 53)
      (low : -1074 ≤ exponent) (high : exponent ≤ 971)
      (place : word = (exponent + 1074).toNat * 2 ^ 52 + mantissa) :
      Normal sign word (.finite sign mantissa exponent positive)

/-- A mantissa of 53 bits has 52 as its logarithm. -/
theorem log2_eq_of_bits {mantissa : Nat} (least : 2 ^ 52 ≤ mantissa) (most : mantissa < 2 ^ 53) :
    mantissa.log2 = 52 :=
  (Nat.log2_eq_iff (by omega)).mpr ⟨least, most⟩

/-- A filled word below the infinite one is a normal float. -/
theorem Filled.normal {sign : Sign} {word : Nat} {x : UnpackedFloat} (filled : Filled sign word x)
    (bounded : word < 2047 * 2 ^ 52) : Normal sign word x := by
  obtain ⟨positive, least, most, low, place⟩ := filled
  exact .finite positive least most low (by omega) place

/-- A mantissa of 53 bits at an exponent fills the word that the two give. -/
theorem filled_of_place {sign : Sign} {word : Nat} {significand : ExtendedMantissa} {exponent : Int}
    {shifted : ExtendedMantissa × Int} (found : shifted = (significand, exponent))
    (least : 2 ^ 52 ≤ significand.mantissa) (most : significand.mantissa < 2 ^ 53)
    (low : -1074 ≤ exponent)
    (place : word = (exponent + 1074).toNat * 2 ^ 52 + significand.mantissa) :
    Filled sign word (if zero : shifted.1.mantissa = 0 then .zero sign
      else .finite sign shifted.1.mantissa shifted.2 (Nat.pos_of_ne_zero zero)) := by
  subst found
  rw [dif_neg (by dsimp only; omega)]
  exact .finite _ least most low place

/-- Rounding a number with more bits yields the nearest significand at its
place; the next power of two takes the first place of the next binade, which is
the same word. -/
theorem filled_roundWithAccuracy (sign : Sign) {mantissa : Nat} (count : Nat) {exponent : Int}
    (positive : 0 < mantissa) (bits : mantissa.log2 = 52 + count)
    (low : -1074 ≤ exponent + count) :
    Filled sign ((exponent + count + 1074).toNat * 2 ^ 52 + nearest count mantissa)
      (UnpackedFloat.roundWithAccuracy .binary64 sign mantissa exponent .exact) := by
  obtain ⟨least, most⟩ := nearest_bounds count positive bits
  unfold UnpackedFloat.roundWithAccuracy
  rw [shiftToTargetExponent_eq count bits low]
  rcases Nat.lt_or_eq_of_le most with within | full
  · have again : UnpackedFloat.shiftToTargetExponent .binary64 (nearest count mantissa)
        (exponent + count) .exact = (⟨nearest count mantissa, false, false⟩, exponent + count) := by
      rw [shiftToTargetExponent_eq 0 (log2_eq_of_bits least within) (by omega)]
      exact congrArg (Prod.mk _) (Int.add_zero _)
    exact filled_of_place again least within low rfl
  · have again : UnpackedFloat.shiftToTargetExponent .binary64 (nearest count mantissa)
        (exponent + count) .exact = (⟨2 ^ 52, false, false⟩, exponent + count + 1) := by
      rw [full, shiftToTargetExponent_eq 1 Nat.log2_two_pow (by omega)]
      rfl
    refine filled_of_place again (by decide) (by decide) (by omega) ?_
    rw [full]
    change _ = _ * 2 ^ 52 + 2 ^ 52
    omega

/-! ### Words of normal numbers -/

/-- The packed word is made up of sign, exponent and fraction in their places. -/
theorem toNat_packComponents (sign : Sign) (exponent : BitVec 11) (fraction : BitVec 52) :
    (UnpackedFloat.packComponents .binary64 sign exponent fraction).toNat =
      sign.toBitVec.toNat * 2 ^ 63 + exponent.toNat * 2 ^ 52 + fraction.toNat := by
  unfold UnpackedFloat.packComponents
  rw [BitVec.toNat_append, BitVec.toNat_append, ← Nat.shiftLeft_add_eq_or_of_lt exponent.isLt,
    ← Nat.shiftLeft_add_eq_or_of_lt fraction.isLt, Nat.shiftLeft_eq, Nat.shiftLeft_eq]
  omega

/-- The sign is unpacked again. -/
theorem unpackSign_packComponents (sign : Sign) (exponent : BitVec 11) (fraction : BitVec 52) :
    UnpackedFloat.unpackSign (UnpackedFloat.packComponents .binary64 sign exponent fraction) =
      sign.toBitVec := by
  apply BitVec.eq_of_toNat_eq
  unfold UnpackedFloat.unpackSign
  rw [BitVec.toNat_cast, BitVec.extractLsb_toNat, toNat_packComponents, Nat.shiftRight_eq_div_pow]
  change (_ : Nat) / 2 ^ 63 % 2 = _
  omega

theorem ofBitVec_toBitVec (sign : Sign) : Sign.ofBitVec sign.toBitVec = sign := by
  cases sign <;> rfl

/-- A word whose exponent is neither empty nor full unpacks to a finite float. -/
theorem unpack_eq_finite {word : BitVec 64} {sign : Sign} {mantissa : Nat} {exponent : Int}
    (notFull : @UnpackedFloat.unpackExponent .binary64 word ≠ -1#11)
    (notEmpty : @UnpackedFloat.unpackExponent .binary64 word ≠ 0#11)
    (signs : Sign.ofBitVec (@UnpackedFloat.unpackSign .binary64 word) = sign)
    (whole : 2 ^ 52 + (@UnpackedFloat.unpackMantissa .binary64 word).toNat = mantissa)
    (place : ((@UnpackedFloat.unpackExponent .binary64 word).toNat : Int) - 1075 = exponent)
    (positive : 0 < mantissa) :
    UnpackedFloat.unpack .binary64 word = .finite sign mantissa exponent positive := by
  have joined : (1#1 ++ @UnpackedFloat.unpackMantissa .binary64 word).toNat = mantissa := by
    rw [BitVec.toNat_append,
      ← Nat.shiftLeft_add_eq_or_of_lt (@UnpackedFloat.unpackMantissa .binary64 word).isLt, ← whole]
    rfl
  subst signs place joined
  unfold UnpackedFloat.unpack
  dsimp only
  rw [if_neg notFull, if_neg notEmpty]
  rfl

namespace Normal

variable {sign : Sign} {word : Nat} {x : UnpackedFloat}

/-- The word of a normal float lies between the least normal one and the infinite one. -/
theorem word_bounds (normal : Normal sign word x) : 2 ^ 52 ≤ word ∧ word < 2047 * 2 ^ 52 := by
  obtain ⟨positive, least, most, low, high, rfl⟩ := normal
  omega

theorem filled (normal : Normal sign word x) : Filled sign word x := by
  obtain ⟨positive, least, most, low, high, place⟩ := normal
  exact .finite positive least most low place

theorem neg (normal : Normal sign word x) : Normal (-sign) word x.neg := by
  obtain ⟨positive, least, most, low, high, place⟩ := normal
  exact .finite positive least most low high place

/-- The leading bit of the significand is not stored, but carries into the
exponent. -/
theorem pack_eq (normal : Normal sign word x) :
    UnpackedFloat.pack .binary64 x = UnpackedFloat.packComponents .binary64 sign
      (BitVec.ofNat 11 (word / 2 ^ 52)) (BitVec.ofNat 52 word) := by
  obtain ⟨positive, least, most, low, high, rfl⟩ := normal
  rename_i mantissa exponent
  have field : (exponent + Format.binary64.exponentBias + (52 : Nat)).toNat =
      ((exponent + 1074).toNat * 2 ^ 52 + mantissa) / 2 ^ 52 := by
    change (exponent + (1023 : Nat) + (52 : Nat)).toNat = _
    omega
  have fraction : BitVec.ofNat 52 mantissa =
      BitVec.ofNat 52 ((exponent + 1074).toNat * 2 ^ 52 + mantissa) := by
    apply BitVec.eq_of_toNat_eq
    rw [BitVec.toNat_ofNat, BitVec.toNat_ofNat]
    omega
  unfold UnpackedFloat.pack
  dsimp only
  rw [field, fraction, if_neg (by omega), if_pos]
  rw [log2_eq_of_bits least most]
  rfl

/-- Packing a normal float gives its word with its sign. -/
theorem toNat_pack (normal : Normal sign word x) :
    (UnpackedFloat.pack .binary64 x).toNat = sign.toBitVec.toNat * 2 ^ 63 + word := by
  obtain ⟨least, most⟩ := normal.word_bounds
  rw [normal.pack_eq, toNat_packComponents, BitVec.toNat_ofNat, BitVec.toNat_ofNat]
  omega

/-- A normal float is unpacked again. -/
theorem unpack_pack (normal : Normal sign word x) :
    UnpackedFloat.unpack .binary64 (UnpackedFloat.pack .binary64 x) = x := by
  obtain ⟨least, most⟩ := normal.word_bounds
  have field : (BitVec.ofNat 11 (word / 2 ^ 52)).toNat = word / 2 ^ 52 := by
    rw [BitVec.toNat_ofNat]
    omega
  have notFull : BitVec.ofNat 11 (word / 2 ^ 52) ≠ -1#11 := by
    intro full
    have same := field.symm.trans (congrArg BitVec.toNat full)
    rw [show (-1#11).toNat = 2047 from rfl] at same
    omega
  have notEmpty : BitVec.ofNat 11 (word / 2 ^ 52) ≠ 0#11 := by
    intro empty
    have same := field.symm.trans (congrArg BitVec.toNat empty)
    rw [show (0#11).toNat = 0 from rfl] at same
    omega
  have packed := normal.pack_eq
  obtain ⟨positive, least, most, low, high, rfl⟩ := normal
  rw [packed]
  apply unpack_eq_finite
  · rw [UnpackedFloat.unpackExponent_packComponents]
    exact notFull
  · rw [UnpackedFloat.unpackExponent_packComponents]
    exact notEmpty
  · rw [unpackSign_packComponents, ofBitVec_toBitVec]
  · rw [UnpackedFloat.unpackMantissa_packComponents, BitVec.toNat_ofNat]
    change 2 ^ 52 + (_ : Nat) % 2 ^ 52 = _
    omega
  · rw [UnpackedFloat.unpackExponent_packComponents, field]
    omega

end Normal

/-! ### Natural numbers -/

/-- The word of the number nearest to a natural number. -/
def nearestWord (n : Nat) : Nat :=
  if n = 0 then 0 else (n.log2 + 1022) * 2 ^ 52 + nearest n.log2 (n * 2 ^ 52)

/-- Zeros behind a number add to its logarithm. -/
theorem log2_mul_two_pow {n : Nat} (positive : 0 < n) (zeros : Nat) :
    (n * 2 ^ zeros).log2 = n.log2 + zeros := by
  have scaled : 0 < n * 2 ^ zeros := Nat.mul_pos positive (Nat.two_pow_pos zeros)
  rw [Nat.log2_eq_iff scaled.ne', Nat.pow_add, show n.log2 + zeros + 1 = n.log2 + 1 + zeros by omega,
    Nat.pow_add]
  exact ⟨Nat.mul_le_mul_right _ (Nat.log2_self_le positive.ne'),
    Nat.mul_lt_mul_of_pos_right Nat.lt_log2_self (Nat.two_pow_pos zeros)⟩

/-- Greater numbers are rounded to words that are no smaller. -/
theorem nearestWord_mono : Monotone nearestWord := by
  intro m n le
  unfold nearestWord
  rcases Nat.eq_zero_or_pos m with rfl | positive
  · exact Nat.zero_le _
  have positive' : 0 < n := positive.trans_le le
  rw [if_neg positive.ne', if_neg positive'.ne']
  have bounds : ∀ {k : Nat}, 0 < k → 2 ^ 52 ≤ nearest k.log2 (k * 2 ^ 52) ∧
      nearest k.log2 (k * 2 ^ 52) ≤ 2 ^ 53 := fun positive =>
    nearest_bounds _ (Nat.mul_pos positive (Nat.two_pow_pos _))
      ((log2_mul_two_pow positive 52).trans (Nat.add_comm _ _))
  have binades : m.log2 ≤ n.log2 :=
    (Nat.le_log2 positive'.ne').mpr ((Nat.log2_self_le positive.ne').trans le)
  rcases Nat.eq_or_lt_of_le binades with same | apart
  · rw [same]
    exact Nat.add_le_add_left (nearest_mono _ (Nat.mul_le_mul_right _ le)) _
  · have below := (bounds positive).2
    have above := (bounds positive').1
    omega

/-- A product of a natural number with powers of two is rounded like the number
itself. -/
theorem filled_round_ofNat {n : Nat} (zeros : Nat) {exponent : Int} (positive : 0 < n)
    (bits : 52 ≤ n.log2 + zeros) (place : exponent = -zeros) :
    Filled .positive (nearestWord n)
      (UnpackedFloat.roundWithAccuracy .binary64 .positive (n * 2 ^ zeros) exponent .exact) := by
  obtain ⟨count, counted⟩ : ∃ count, n.log2 + zeros = 52 + count := ⟨n.log2 + zeros - 52, by omega⟩
  have scaled : 0 < n * 2 ^ zeros := Nat.mul_pos positive (Nat.two_pow_pos zeros)
  have word : nearestWord n =
      (exponent + count + 1074).toNat * 2 ^ 52 + nearest count (n * 2 ^ zeros) := by
    have same : nearest n.log2 (n * 2 ^ 52) = nearest count (n * 2 ^ zeros) := by
      rw [← nearest_add n.log2 zeros, ← nearest_add count 52, counted, Nat.add_comm 52,
        Nat.mul_right_comm]
    rw [nearestWord, if_neg positive.ne', same]
    congr 2
    omega
  rw [word]
  exact filled_roundWithAccuracy .positive count scaled
    ((log2_mul_two_pow positive zeros).trans counted) (by omega)

/-- Multiplying with one changes nothing. -/
theorem Normal.mul_one {sign : Sign} {word : Nat} {x : UnpackedFloat} (normal : Normal sign word x)
    (small : word < 2046 * 2 ^ 52) (positive : 0 < 2 ^ 52) :
    Normal (sign * .positive) word
      (UnpackedFloat.mul .binary64 x (.finite .positive (2 ^ 52) (-52) positive)) := by
  obtain ⟨mantissaPositive, least, most, low, high, place⟩ := normal
  rename_i mantissa exponent
  have bits : (mantissa * 2 ^ 52).log2 = 52 + 52 := by
    rw [log2_mul_two_pow mantissaPositive, log2_eq_of_bits least most]
  have rounded := filled_roundWithAccuracy (sign * .positive) 52
    (Nat.mul_pos mantissaPositive positive) bits (show -1074 ≤ exponent + -52 + (52 : Nat) by omega)
  have word : word = (exponent + -52 + (52 : Nat) + 1074).toNat * 2 ^ 52 +
      nearest 52 (mantissa * 2 ^ 52) := by
    rw [show nearest 52 (mantissa * 2 ^ 52) = mantissa from nearest_add 0 52 mantissa, place]
    congr 3
    omega
  rw [← word] at rounded
  exact rounded.normal (by omega)

/-- Numbers of 64 bits are rounded to words below the infinite one. -/
theorem nearestWord_lt {n : Nat} (bounded : n.log2 < 64) : nearestWord n < 2046 * 2 ^ 52 := by
  rcases Nat.eq_zero_or_pos n with rfl | positive
  · decide
  · have := (nearest_bounds n.log2 (Nat.mul_pos positive (Nat.two_pow_pos 52))
      ((log2_mul_two_pow positive 52).trans (Nat.add_comm _ _))).2
    rw [nearestWord, if_neg positive.ne']
    omega

/-- Numbers below `2 ^ 53` are converted exactly. -/
theorem unpack_toFloat {n : Nat} (positive : 0 < n) (exact : n < 2 ^ 53) :
    Normal .positive (nearestWord n) n.toUInt64.toFloat.toModel.unpack := by
  have bounded : n.log2 < 53 := (Nat.log2_lt positive.ne').mpr exact
  have whole : n.toUInt64.toNat = n := Nat.mod_eq_of_lt (by omega)
  have target : Format.binary64.targetExponent (totalExponent n 0) = -((52 - n.log2 : Nat) : Int) := by
    rw [targetExponent_eq]
    omega
  have rounded : Normal .positive (nearestWord n)
      (UnpackedFloat.normalize .binary64 n.toUInt64.toNat 0 .positive) := by
    rw [whole, UnpackedFloat.normalize, Int.compare_eq_gt.mpr (by omega)]
    dsimp only
    unfold UnpackedFloat.round UnpackedFloat.decreaseExponent
    rw [Int.toNat_natCast, target]
    dsimp only
    rw [Nat.shiftLeft_eq]
    apply Filled.normal (filled_round_ofNat _ positive (by omega) (by omega))
    exact (nearestWord_lt (by omega)).trans (by decide)
  change Normal _ _ (UnpackedFloat.unpack .binary64
    (UnpackedFloat.pack .binary64 (UnpackedFloat.normalize .binary64 n.toUInt64.toNat 0 .positive)))
  rw [rounded.unpack_pack]
  exact rounded

/-- The number nearest to a natural number, before it is packed; it may be too
large for that. -/
theorem exists_filled_ofNat {n : Nat} (positive : 0 < n) :
    ∃ x, Filled .positive (nearestWord n) x ∧ (Float.ofNat n).toModel = pack x := by
  change ∃ x, _ ∧ (Float.ofScientific n false 0).toModel = pack x
  unfold Float.ofScientific
  split
  · rename_i exact
    have bounded : n.log2 < 64 := ((Nat.log2_lt positive.ne').mpr exact.1).trans (by decide)
    have one : (Float.exactlyRepresentablePowersOfTen[0]).toModel.unpack =
        .finite .positive (2 ^ 52) (-52) (by decide) := rfl
    have normal := (unpack_toFloat positive exact.1).mul_one (nearestWord_lt bounded) (by decide)
    rw [← one] at normal
    exact ⟨_, normal.filled, rfl⟩
  · rename_i large
    have bits : 53 ≤ n.log2 := (Nat.le_log2 positive.ne').mpr (by omega)
    refine ⟨UnpackedFloat.ofScientific .binary64 n 0, ?_, rfl⟩
    unfold UnpackedFloat.ofScientific
    have notTiny : ¬ (0 : Int) < -((2 ^ 11 : Int) + n.log2) := by omega
    rw [dif_neg positive.ne', if_neg (by decide), if_neg notTiny, if_pos (le_refl 0)]
    have filled := filled_round_ofNat 53 positive (by omega) rfl
    rw [← Nat.shiftLeft_eq, ← Nat.mul_one (n <<< 53)] at filled
    exact filled

/-- A number of 64 bits is turned into a normal float, with the nearest word. -/
theorem exists_normal_ofNat {n : Nat} (positive : 0 < n) (bounded : n.log2 < 64) :
    ∃ x, Normal .positive (nearestWord n) x ∧ (Float.ofNat n).toModel = pack x := by
  obtain ⟨x, filled, packed⟩ := exists_filled_ofNat positive
  exact ⟨x, filled.normal ((nearestWord_lt bounded).trans (by decide)), packed⟩

/-! ### Integers -/

/-- The order of a float that packs a normal one goes by its sign and its word. -/
theorem orderKey_ofFloat {sign : Sign} {word : Nat} {x : UnpackedFloat} {f : Float}
    (normal : Normal sign word x) (packed : f.toModel = pack x) :
    (ofFloat f).orderKey = sign.apply word := by
  obtain ⟨-, bounded⟩ := normal.word_bounds
  have bits : (ofFloat f).bits.toNat = sign.toBitVec.toNat * 2 ^ 63 + word := by
    rw [← normal.toNat_pack]
    change f.toModel.toBits.toNat = _
    rw [packed]
    rfl
  cases sign with
  | negative =>
      change _ = 1 * 2 ^ 63 + word at bits
      rw [orderKey, isNegative, magnitude, bits, if_pos (by rw [decide_eq_true_eq]; omega)]
      change -((_ : Nat) : Int) = -(word : Int)
      omega
  | positive =>
      change _ = 0 * 2 ^ 63 + word at bits
      rw [orderKey, isNegative, magnitude, bits, if_neg (by rw [decide_eq_true_eq]; omega)]
      change ((_ : Nat) : Int) = (word : Int)
      omega

/-- The place that the number nearest to an integer has in the order. -/
theorem orderKey_ofInt64 (n : Int64) :
    (ofInt64 n).orderKey = n.toInt.sign * nearestWord n.toInt.natAbs := by
  have bounded : n.toInt.natAbs.log2 < 64 := by
    rcases Nat.eq_zero_or_pos n.toInt.natAbs with zero | positive
    · rw [zero]
      decide
    · rw [Nat.log2_lt positive.ne']
      have := n.toInt_lt
      have := n.le_toInt
      omega
  unfold ofInt64
  cases found : n.toInt with
  | ofNat k =>
      rw [found] at bounded
      cases k with
      | zero => decide +kernel
      | succ k =>
          obtain ⟨x, normal, packed⟩ := exists_normal_ofNat k.succ_pos bounded
          exact (orderKey_ofFloat normal packed).trans (Int.one_mul _).symm
  | negSucc k =>
      rw [found] at bounded
      obtain ⟨x, normal, packed⟩ := exists_normal_ofNat k.succ_pos bounded
      have negated : (Float.neg (Float.ofNat k.succ)).toModel = pack x.neg := by
        change pack (Float.ofNat k.succ).toModel.unpack.neg = _
        rw [packed]
        exact congrArg (fun y => pack (UnpackedFloat.neg y)) normal.unpack_pack
      exact (orderKey_ofFloat normal.neg negated).trans (Int.neg_one_mul _).symm

/-- Rounding an integer to the nearest number keeps the order, though not
always strictly. -/
theorem orderKey_ofInt64_mono {m n : Int64} (le : m.toInt ≤ n.toInt) :
    (ofInt64 m).orderKey ≤ (ofInt64 n).orderKey := by
  have above : ∀ {k : Int}, 0 ≤ k → k.sign * nearestWord k.natAbs = nearestWord k.natAbs := by
    intro k nonnegative
    rcases nonnegative.eq_or_lt with rfl | positive
    · rfl
    · rw [Int.sign_eq_one_of_pos positive, Int.one_mul]
  have below : ∀ {k : Int}, k ≤ 0 → k.sign * nearestWord k.natAbs = -nearestWord k.natAbs := by
    intro k nonpositive
    rcases nonpositive.eq_or_lt with rfl | negative
    · rfl
    · rw [Int.sign_eq_neg_one_of_neg negative, Int.neg_one_mul]
  rw [orderKey_ofInt64, orderKey_ofInt64]
  rcases Int.le_total 0 m.toInt with nonnegative | nonpositive
  · have words := nearestWord_mono (show m.toInt.natAbs ≤ n.toInt.natAbs by omega)
    rw [above nonnegative, above (nonnegative.trans le)]
    omega
  · rcases Int.le_total 0 n.toInt with nonnegative' | nonpositive'
    · rw [below nonpositive, above nonnegative']
      omega
    · have words := nearestWord_mono (show n.toInt.natAbs ≤ m.toInt.natAbs by omega)
      rw [below nonpositive, below nonpositive']
      omega

end Binary64

end Relational
