import Relational.Value.Coercion
import Relational.Value.Key
import Relational.Value.Logic

/-!
# Keys of equal values

Keys stand in for equality wherever rows are found, grouped or told apart.  Two
values that count as equal, be it as stored cells or in a condition on one
column, have the same key.  Only the zeros need an argument: every other number
is equal to no number but itself.
-/

namespace Relational

namespace Binary64

/-- A word is its sign over its magnitude. -/
theorem toNat_bits (x : Binary64) :
    x.bits.toNat = (if x.isNegative then 0x8000000000000000 else 0) + x.magnitude := by
  have bounded : x.bits.toNat < 0x10000000000000000 := x.bits.toNat_lt
  unfold isNegative magnitude
  split <;> simp_all <;> omega

/-- Floats are equal if their signs and magnitudes are. -/
theorem ext_magnitude {x y : Binary64} (signs : x.isNegative = y.isNegative)
    (magnitudes : x.magnitude = y.magnitude) : x = y := by
  have words : x.bits.toNat = y.bits.toNat := by rw [toNat_bits, toNat_bits, signs, magnitudes]
  cases x
  cases y
  exact congrArg mk (UInt64.toNat_inj.mp words)

/-- Only the zeros share a place in the order. -/
theorem eq_or_zero_of_orderKey_eq {x y : Binary64} (same : x.orderKey = y.orderKey) :
    x = y ∨ x.magnitude = 0 ∧ y.magnitude = 0 := by
  unfold orderKey at same
  cases left : x.isNegative <;> cases right : y.isNegative <;>
    simp only [left, right, Bool.false_eq_true, ↓reduceIte] at same
  · exact Or.inl (ext_magnitude (left.trans right.symm) (by omega))
  · exact Or.inr (by omega)
  · exact Or.inr (by omega)
  · exact Or.inl (ext_magnitude (left.trans right.symm) (by omega))

/-- Both zeros denote the integer zero. -/
theorem toInt?_of_magnitude_eq_zero {x : Binary64} (zero : x.magnitude = 0) :
    x.toInt? = some 0 := by
  have finite : x.isFinite = true := by simp [isFinite, zero, infiniteMagnitude]
  have scale : x.exponent = .negSucc 1073 := by simp [exponent, zero]
  have digits : x.significand = 0 := by simp [significand, zero]
  have denoted : x.integralMagnitude? = some 0 := by
    simp only [integralMagnitude?, scale, digits, Nat.zero_mod, Nat.zero_shiftRight, ↓reduceIte]
  simp [toInt?, finite, denoted]

/-- Floats compare as equal exactly if both are numbers in the same place of the order. -/
theorem compare?_eq_some_eq_iff {x y : Binary64} :
    compare? x y = some .eq ↔ x.isNaN = false ∧ y.isNaN = false ∧ x.orderKey = y.orderKey := by
  unfold compare?
  cases x.isNaN <;> cases y.isNaN <;> simp

end Binary64

namespace Key

/-- Numbers in the same place of the order have the same key. -/
theorem ofBinary64_eq_of_orderKey_eq {x y : Binary64} (same : x.orderKey = y.orderKey) :
    ofBinary64 x = ofBinary64 y := by
  rcases Binary64.eq_or_zero_of_orderKey_eq same with equal | ⟨left, right⟩
  · rw [equal]
  · have folded : ∀ {z : Binary64}, z.magnitude = 0 → ofBinary64 z = .integer (Int64.ofInt 0) := by
      intro z zero
      simp [ofBinary64, foldedInteger?, Binary64.toInt?_of_magnitude_eq_zero zero]
    rw [folded left, folded right]

theorem isSome_ofValue? (value : Value) : (ofValue? value).isSome = !value.isNull := by
  cases value <;> rfl

theorem ofValue?_eq_none_iff {value : Value} : ofValue? value = none ↔ value.isNull = true := by
  cases value <;> simp [ofValue?, Value.isNull]

end Key

namespace Value

/-- Equal cells have the same key, so an index needs no change when a cell is
replaced by an equal one. -/
theorem key_eq_of_same {a b : Value} (equal : a.same b = true) :
    Key.ofValue? a = Key.ofValue? b := by
  cases a <;> cases b <;> simp_all [same, Key.ofValue?]
  exact Key.ofBinary64_eq_of_orderKey_eq
    (Binary64.compare?_eq_some_eq_iff.mp (beq_iff_eq.mp equal)).2.2

/-- To be the same value does not depend on the order. -/
theorem same_symm {a b : Value} (equal : a.same b = true) : b.same a = true := by
  cases a <;> cases b <;> simp_all [same]
  have order := Binary64.compare?_eq_some_eq_iff.mp (beq_iff_eq.mp equal)
  exact beq_iff_eq.mpr (Binary64.compare?_eq_some_eq_iff.mpr
    ⟨order.2.1, order.1, order.2.2.symm⟩)

/-! ### Types of cells -/

/-- What a column of a type may hold: values of that type, and null. -/
def Fits (type : ColumnType) : Value → Prop
  | .null => True
  | .integer _ => type = .integer
  | .float _ => type = .float
  | .boolean _ => type = .boolean
  | .text _ => type = .text

instance (type : ColumnType) (value : Value) : Decidable (Fits type value) :=
  match value with
  | .null => inferInstanceAs (Decidable True)
  | .integer _ => inferInstanceAs (Decidable (type = .integer))
  | .float _ => inferInstanceAs (Decidable (type = .float))
  | .boolean _ => inferInstanceAs (Decidable (type = .boolean))
  | .text _ => inferInstanceAs (Decidable (type = .text))

@[simp] theorem fits_null (type : ColumnType) : Fits type .null :=
  trivial

/-- What a coercion makes of a value: itself if a column of the type may hold it, else
what the value stands for in the type. -/
inductive Conversion : Value → ColumnType → Value → Prop
  | kept {value : Value} {type : ColumnType} (fits : Fits type value) : Conversion value type value
  | nearest (n : Int64) : Conversion (.integer n) .float (.float (Binary64.ofInt64 n))
  | bit (b : Bool) : Conversion (.integer (if b then 1 else 0)) .boolean (.boolean b)
  | integral {x : Binary64} {n : Int64} (integral : integerOfFloat? x = some n) :
      Conversion (.float x) .integer (.integer n)
  | readInteger {s : String} {n : Int64} (reads : integerOfText? s = some n) :
      Conversion (.text s) .integer (.integer n)
  | readFloat {s : String} {x : Binary64} (reads : floatOfText? s = some x) :
      Conversion (.text s) .float (.float x)
  | readBoolean {s : String} {b : Bool} (reads : booleanOfText? s = some b) :
      Conversion (.text s) .boolean (.boolean b)

/-- What a value is converted to is one of the conversions. -/
theorem Conversion.of_convert? {type : ColumnType} {value converted : Value}
    (converts : value.convert? type = some converted) : Conversion value type converted := by
  cases value with
  | null =>
      cases converts
      exact .kept (fits_null type)
  | integer n =>
      cases type <;> simp only [convert?, Option.some.injEq, reduceCtorEq] at converts
      · exact converts ▸ .kept rfl
      · exact converts ▸ .nearest n
      · split at converts
        · rename_i zero
          cases converts
          exact zero ▸ .bit false
        · split at converts
          · rename_i one
            cases converts
            exact one ▸ .bit true
          · cases converts
  | float x =>
      cases type <;> simp only [convert?, Option.map_eq_some_iff, Option.some.injEq,
        reduceCtorEq] at converts
      · obtain ⟨n, integral, rfl⟩ := converts
        exact .integral integral
      · exact converts ▸ .kept rfl
  | boolean b =>
      cases type <;> simp only [convert?, Option.some.injEq, reduceCtorEq] at converts
      exact converts ▸ .kept rfl
  | text s =>
      cases type <;> simp only [convert?, Option.map_eq_some_iff, Option.some.injEq] at converts
      · obtain ⟨n, reads, rfl⟩ := converts
        exact .readInteger reads
      · obtain ⟨x, reads, rfl⟩ := converts
        exact .readFloat reads
      · exact converts ▸ .kept rfl
      · obtain ⟨b, reads, rfl⟩ := converts
        exact .readBoolean reads

/-- A coercion to a type yields what a column of that type may hold. -/
theorem convert?_fits {type : ColumnType} {value converted : Value}
    (converts : value.convert? type = some converted) : Fits type converted := by
  cases Conversion.of_convert? converts with
  | kept fits => exact fits
  | nearest | bit | integral | readInteger | readFloat | readBoolean => rfl

/-- What a value is coerced to fits the column. -/
theorem coerce_fits {value coerced : Value} {type : ColumnType} {column : String}
    (coerces : value.coerce type column = .ok coerced) : Fits type coerced := by
  unfold coerce at coerces
  split at coerces
  · rename_i converts
    cases coerces
    exact convert?_fits converts
  · cases coerces

/-- What a column may hold enters it as it is. -/
theorem coerce_of_fits {type : ColumnType} {value : Value} (fits : value.Fits type)
    (column : String) : value.coerce type column = .ok value := by
  have converts : value.convert? type = some value := by
    cases value <;> cases fits <;> rfl
  rw [coerce, converts]

/-- Contents of one column that a condition finds equal have the same key. -/
theorem key_eq_of_comparison_eq {type : ColumnType} {a b : Value} (left : Fits type a)
    (right : Fits type b) (equal : a.comparison b = .ok (some .eq)) :
    Key.ofValue? a = Key.ofValue? b := by
  cases a <;> cases b <;> cases left <;> cases right <;>
    simp only [comparison, isNull, Bool.or_self, Bool.or_true, Bool.true_or, Bool.false_eq_true,
      ↓reduceIte, Except.ok.injEq, reduceCtorEq, compare?, Option.some.injEq] at equal
  case integer.integer m n =>
    exact congrArg (fun k => some (Key.integer k))
      (Int64.toInt_inj.mp (Int.compare_eq_eq.mp equal))
  case float.float x y =>
    split at equal
    · rename_i order found
      cases equal
      exact congrArg some (Key.ofBinary64_eq_of_orderKey_eq
        (Binary64.compare?_eq_some_eq_iff.mp found).2.2)
    · rename_i found
      simp [compareAsNumbers?, comparisonNumber?, asFloat?, found] at equal
  case boolean.boolean p q =>
    cases p <;> cases q <;> simp_all [compareBool]
  case text.text s t =>
    unfold compareText compareOfLessAndEq at equal
    split at equal
    · cases equal
    · split at equal
      · rename_i texts
        rw [texts]
      · cases equal

end Value

end Relational
