import Mathlib.Data.List.TakeWhile
import Mathlib.Tactic.Linarith
import Relational.Proofs.Binary64.Integral
import Relational.Value.Coercion

/-!
# What enters a column of integers

A float or the decimal numeral of an integer that enters a column of integers is
the integer that is stored, as long as it is one of 64 bits.  Beyond the range
there is a gap in the check: a float is compared with the greatest integer as a
float, which is `2 ^ 63`, and a numeral that is too long is read as a float.  So
what rounds to `2 ^ 63` or `-2 ^ 63` enters as the greatest or the least integer,
and nothing else beyond the range does.
-/

namespace Relational

namespace Decimal

/-- The spellings of an integer: decimal digits behind an optional sign. -/
inductive IntegerNumeral : List Char → Int → Prop
  | plain {digits : List Char} (some_digit : digits ≠ [])
      (each : ∀ c ∈ digits, c.isDigit) : IntegerNumeral digits (valueOf digits)
  | plus {digits : List Char} (some_digit : digits ≠ [])
      (each : ∀ c ∈ digits, c.isDigit) : IntegerNumeral ('+' :: digits) (valueOf digits)
  | minus {digits : List Char} (some_digit : digits ≠ [])
      (each : ∀ c ∈ digits, c.isDigit) : IntegerNumeral ('-' :: digits) (-valueOf digits)

variable {text digits : List Char} {N : Int}

/-- A numeral, taken apart. -/
structure Signed (text : List Char) (N : Int) (negative : Bool) (digits : List Char) : Prop where
  sign : splitSign text = (negative, digits)
  some_digit : digits ≠ []
  each : ∀ c ∈ digits, c.isDigit
  value : N = if negative then -(valueOf digits : Int) else valueOf digits

/-- Digits have no sign in front. -/
theorem splitSign_digits (each : ∀ c ∈ digits, c.isDigit) : splitSign digits = (false, digits) := by
  unfold splitSign
  split
  · cases each '-' List.mem_cons_self
  · cases each '+' List.mem_cons_self
  · rfl

/-- A numeral of an integer is a sign and digits. -/
theorem IntegerNumeral.signed (numeral : IntegerNumeral text N) :
    ∃ negative digits, Signed text N negative digits := by
  cases numeral with
  | plain some_digit each => exact ⟨false, _, splitSign_digits each, some_digit, each, rfl⟩
  | plus some_digit each => exact ⟨false, _, rfl, some_digit, each, rfl⟩
  | minus some_digit each => exact ⟨true, _, rfl, some_digit, each, rfl⟩

/-! ### Digits -/

/-- Leading zeros do not count. -/
theorem valueOf_dropWhile (digits : List Char) :
    valueOf (digits.dropWhile (· == '0')) = valueOf digits := by
  induction digits with
  | nil => rfl
  | cons c digits ih =>
      rw [List.dropWhile_cons]
      by_cases zero : c == '0'
      · rw [if_pos zero, ih, eq_of_beq zero]
        rfl
      · rw [if_neg zero]

/-- A digit other than zero in front makes a number as great as its place. -/
theorem ten_pow_le_valueOf {c : Char} (digit : c.isDigit) (nonzero : c ≠ '0') :
    10 ^ digits.length ≤ valueOf (c :: digits) := by
  have least : '0'.toNat ≤ c.toNat := (Char.isDigit_iff_toNat.mp digit).1
  have apart : c.toNat ≠ '0'.toNat := fun same => nonzero (Char.toNat_inj.mp same)
  unfold valueOf
  rw [Nat.ofDigitChars_cons, Nat.ofDigitChars_eq_ofDigitChars_zero]
  calc 10 ^ digits.length = 10 ^ digits.length * 1 := (Nat.mul_one _).symm
    _ ≤ 10 ^ digits.length * (10 * 0 + (c.toNat - '0'.toNat)) :=
      Nat.mul_le_mul_left _ (by omega)
    _ ≤ _ := Nat.le_add_right _ _

/-- The float nearest to digits that denote `2 ^ 63` or more is near what they denote. -/
theorem nearest_nearBeyond (each : ∀ c ∈ digits, c.isDigit) (least : 2 ^ 63 ≤ valueOf digits) :
    (nearest digits 0).NearBeyond (valueOf digits) := by
  have kept : ∀ c ∈ digits.dropWhile (· == '0'), c.isDigit := fun c among =>
    each c (List.dropWhile_subset _ among)
  have leading : ∀ c ∈ (digits.dropWhile (· == '0')).head?, c ≠ '0' := by
    intro c first zero
    have dropped := List.head?_dropWhile_not (· == '0') digits
    rw [first, zero] at dropped
    cases dropped
  have value := valueOf_dropWhile digits
  rw [← value] at least ⊢
  unfold nearest
  generalize digits.dropWhile (· == '0') = significant at *
  cases significant with
  | nil => cases least
  | cons c rest =>
      dsimp only [List.isEmpty_cons]
      rw [if_neg Bool.false_ne_true]
      have great : 10 ^ rest.length ≤ valueOf (c :: rest) :=
        ten_pow_le_valueOf (kept c List.mem_cons_self) (leading c rfl)
      rw [List.length_cons]
      by_cases long : 310 < ((rest.length + 1 : Nat) : Int) + 0
      · rw [if_pos long]
        apply Binary64.infinity_nearBeyond
        calc 2 ^ 63 + 1024 < 10 ^ 20 := by decide
          _ ≤ 10 ^ rest.length := Nat.pow_le_pow_right (by decide) (by omega)
          _ ≤ _ := great
      · rw [if_neg long, if_neg (by omega)]
        exact Binary64.ofNat_nearBeyond least

/-! ### Reading numerals -/

variable {negative : Bool} {s : String}

/-- A numeral is read as an integer exactly if its value is in the range. -/
theorem Signed.readInt64? (signed : Signed s.toList N negative digits) :
    readInt64? s = if Int64.minValue.toInt ≤ N ∧ N ≤ Int64.maxValue.toInt
      then some (Int64.ofInt N) else none := by
  obtain ⟨sign, some_digit, each, rfl⟩ := signed
  have digital : (digits.isEmpty || !digits.all Char.isDigit) = false := by
    rw [List.all_eq_true.mpr each]
    simp [some_digit]
  unfold Decimal.readInt64?
  rw [sign]
  dsimp only
  rw [digital]
  cases negative <;> rfl

/-- A numeral is read as the float nearest to its digits, with its sign. -/
theorem Signed.readFloat? (signed : Signed s.toList N negative digits) :
    readFloat? s = some (if negative then -nearest digits 0 else nearest digits 0) := by
  obtain ⟨sign, some_digit, each, -⟩ := signed
  have unsigned : readUnsigned? digits = some (nearest digits 0) := by
    unfold readUnsigned?
    rw [List.takeWhile_eq_self_iff.mpr each, List.dropWhile_eq_nil_iff.mpr each]
    dsimp only
    rw [if_neg (by simp [some_digit])]
    simp [readExponent?]
  unfold Decimal.readFloat?
  rw [sign]
  dsimp only
  rw [unsigned]
  rfl

end Decimal

namespace Value

open Binary64 Decimal

variable {x : Binary64} {n : Int64} {N : Int} {negative : Bool} {digits : List Char} {s : String}

/-! ### Floats -/

theorem toInt_minValue : Int64.minValue.toInt = -2 ^ 63 := by
  decide

theorem toInt_maxValue : Int64.maxValue.toInt = 2 ^ 63 - 1 := by
  decide

/-- Which float is stored as which integer. -/
theorem integerOfFloat?_eq_some_iff : integerOfFloat? x = some n ↔
    x.isFinite ∧ (x.value = n.toInt ∨ x.value = 2 ^ 63 ∧ n = Int64.maxValue) := by
  have lower := n.le_toInt
  have upper := n.toInt_lt
  have limit : x.value = 2 ^ 63 ↔ x.value = ((2 ^ 63 : Int) : ℚ) := by norm_num
  rw [limit, and_or_left, ← and_assoc, ← toInt?_eq_some_iff, ← toInt?_eq_some_iff,
    integerOfFloat?]
  cases x.toInt? with
  | none => simp
  | some a =>
      dsimp only
      rw [toInt_minValue, toInt_maxValue, Option.some_inj, Option.some_inj]
      by_cases within : -2 ^ 63 ≤ a ∧ a ≤ 2 ^ 63 - 1
      · rw [if_pos within, Option.some_inj, or_iff_left (by omega)]
        constructor
        · intro same
          rw [← same, Int64.toInt_ofInt_of_le within.1 (by omega)]
        · intro same
          rw [same, Int64.ofInt_toInt]
      · rw [if_neg within, or_iff_right (by omega), Int.sub_add_cancel]
        by_cases here : a = 2 ^ 63
        · rw [if_pos here, Option.some_inj, and_iff_right here, eq_comm]
        · rw [if_neg here]
          exact iff_of_false nofun fun both => here both.1

/-! ### Numerals -/

/-- Above the range, what rounds to `2 ^ 63` is stored as the greatest integer. -/
theorem integerOfFloat?_of_nearBeyond {k : Nat} (near : x.NearBeyond k) :
    integerOfFloat? x = some n ↔ k ≤ 2 ^ 63 + 1024 ∧ n = Int64.maxValue := by
  rw [integerOfFloat?_eq_some_iff, near.value_eq_iff]
  constructor
  · intro ⟨_, stored⟩
    rcases stored with exact | cut
    · have within : (n.toInt : ℚ) < 2 ^ 63 := by exact_mod_cast n.toInt_lt
      exact absurd within (not_lt.mpr (exact ▸ near.le_value))
    · exact cut
  · intro ⟨most, greatest⟩
    exact ⟨near.isFinite most, .inr ⟨most, greatest⟩⟩

/-- Below the range, what rounds to `-2 ^ 63` is stored as the least integer. -/
theorem integerOfFloat?_neg_of_nearBeyond {k : Nat} (near : x.NearBeyond k) :
    integerOfFloat? (-x) = some n ↔ k ≤ 2 ^ 63 + 1024 ∧ n = Int64.minValue := by
  have least := near.le_value
  rw [integerOfFloat?_eq_some_iff, isFinite_neg, value_neg, ← near.value_eq_iff]
  constructor
  · intro ⟨_, stored⟩
    rcases stored with exact | ⟨opposite, -⟩
    · have within : ((-2 ^ 63 : Int) : ℚ) ≤ n.toInt := Int.cast_le.mpr n.le_toInt
      push_cast at within
      have same : x.value = 2 ^ 63 := le_antisymm (by linarith) least
      refine ⟨same, Int64.toInt_inj.mp ?_⟩
      rw [toInt_minValue, ← @Int.cast_inj ℚ, ← exact, same]
      norm_num
    · linarith
  · intro ⟨same, lowest⟩
    refine ⟨near.isFinite (near.value_eq_iff.mp same), .inl ?_⟩
    rw [same, lowest, toInt_minValue]
    norm_num

/-- Which numeral is stored as which integer. -/
theorem integerOfText?_eq_some_iff (numeral : IntegerNumeral (Unicode.trim s).toList N) :
    integerOfText? s = some n ↔ n.toInt = N ∨
      2 ^ 63 ≤ N ∧ N ≤ 2 ^ 63 + 1024 ∧ n = Int64.maxValue ∨
        -2 ^ 63 - 1024 ≤ N ∧ N < -2 ^ 63 ∧ n = Int64.minValue := by
  have lower := n.le_toInt
  have upper := n.toInt_lt
  obtain ⟨negative, digits, signed⟩ := numeral.signed
  rw [integerOfText?, signed.readInt64?, signed.readFloat?, toInt_minValue, toInt_maxValue]
  by_cases within : -2 ^ 63 ≤ N ∧ N ≤ 2 ^ 63 - 1
  · rw [if_pos within]
    change some (Int64.ofInt N) = some n ↔ _
    rw [Option.some_inj, or_iff_left (by omega)]
    constructor
    · intro same
      rw [← same, Int64.toInt_ofInt_of_le within.1 (by omega)]
    · intro same
      rw [← same, Int64.ofInt_toInt]
  · rw [if_neg within, or_iff_right (by omega)]
    obtain ⟨-, -, each, value⟩ := signed
    cases negative with
    | false =>
        rw [if_neg Bool.false_ne_true] at value
        change integerOfFloat? (nearest digits 0) = some n ↔ _
        rw [integerOfFloat?_of_nearBeyond (nearest_nearBeyond each (by omega))]
        simp only [← Int64.toInt_inj, toInt_minValue, toInt_maxValue]
        omega
    | true =>
        rw [if_pos rfl] at value
        change integerOfFloat? (-nearest digits 0) = some n ↔ _
        rw [integerOfFloat?_neg_of_nearBeyond (nearest_nearBeyond each (by omega))]
        simp only [← Int64.toInt_inj, toInt_minValue, toInt_maxValue]
        omega

/-- What enters a column of integers is exactly what is stored, but for the floats
and numerals that round to `2 ^ 63` or `-2 ^ 63` without being one of 64 bits. -/
theorem coerce_integer_iff (column : String) (n : Int64) :
    (∀ x : Binary64, (float x).coerce .integer column = .ok (.integer n) ↔
      x.isFinite ∧ (x.value = n.toInt ∨ x.value = 2 ^ 63 ∧ n = Int64.maxValue)) ∧
    ∀ (s : String) (N : Int), IntegerNumeral (Unicode.trim s).toList N →
      ((text s).coerce .integer column = .ok (.integer n) ↔ n.toInt = N ∨
        2 ^ 63 ≤ N ∧ N ≤ 2 ^ 63 + 1024 ∧ n = Int64.maxValue ∨
          -2 ^ 63 - 1024 ≤ N ∧ N < -2 ^ 63 ∧ n = Int64.minValue) := by
  have stored : ∀ value : Value, ∀ found : Option Int64,
      value.convert? .integer = found.map .integer →
        (value.coerce .integer column = .ok (.integer n) ↔ found = some n) := by
    intro value found converts
    rw [coerce, converts]
    cases found with
    | none => exact iff_of_false nofun nofun
    | some m => simp
  constructor
  · intro x
    rw [stored _ _ rfl, integerOfFloat?_eq_some_iff]
  · intro s N numeral
    rw [stored _ _ rfl, integerOfText?_eq_some_iff numeral]

/-- A sign, zeros in front and white space around a numeral make no difference;
the float is the one of value 42. -/
theorem coerce_padded_numeral :
    (text " +0042 ").coerce .integer "id" = .ok (.integer 42) ∧
      (float ⟨0x4045000000000000⟩).coerce .integer "id" = .ok (.integer 42) := by
  obtain ⟨floats, texts⟩ := coerce_integer_iff "id" 42
  constructor
  · have trimmed : (Unicode.trim " +0042 ").toList = '+' :: ['0', '0', '4', '2'] := by
      decide +kernel
    have numeral : IntegerNumeral (Unicode.trim " +0042 ").toList 42 := by
      rw [trimmed]
      exact .plus (List.cons_ne_nil _ _) (List.all_eq_true.mp (by decide))
    exact (texts _ 42 numeral).mpr (.inl rfl)
  · have whole : (⟨0x4045000000000000⟩ : Binary64).toInt? = some 42 := by decide +kernel
    obtain ⟨finite, value⟩ := toInt?_eq_some_iff.mp whole
    exact (floats _).mpr ⟨finite, .inl value⟩

/-- The numeral after the greatest integer enters as the greatest integer, and so
does the float `2 ^ 63`. -/
theorem coerce_limit_inexact :
    IntegerNumeral (Unicode.trim "9223372036854775808").toList 9223372036854775808 ∧
      (text "9223372036854775808").coerce .integer "id" = .ok (.integer Int64.maxValue) ∧
      (⟨0x43E0000000000000⟩ : Binary64).value = 9223372036854775808 ∧
      (float ⟨0x43E0000000000000⟩).coerce .integer "id" = .ok (.integer Int64.maxValue) ∧
      Int64.maxValue.toInt ≠ 9223372036854775808 := by
  refine ⟨?_, by decide +kernel, ?_, by decide +kernel, by decide⟩
  · have trimmed : (Unicode.trim "9223372036854775808").toList = "9223372036854775808".toList := by
      decide +kernel
    rw [trimmed]
    exact .plain (by decide) (List.all_eq_true.mp (by decide))
  · have limit := (value_eq_limit (x := ⟨0x43E0000000000000⟩) (by decide)).mpr (by decide)
    rw [limit]
    norm_num

end Value

end Relational
