import Relational.Proofs.Value.Equality
import Relational.Proofs.Value.Exactness

/-!
# Values that share a key

Indexes, groups and `DISTINCT` take values with one key for one value.  They may do
so because numbers with one key are one number exactly, not only after rounding, and
because everything else has a key of its own.  The other way round, a number has one
key for all of its values, with one exception: the least integer is filed under itself
as an integer and under its word as a float.
-/

namespace Relational

namespace Binary64

variable {x y : Binary64}

theorem ticks_eq_zero_iff {magnitude : Nat} : ticks magnitude = 0 ↔ magnitude = 0 :=
  ticks_strictMono.injective.eq_iff' rfl

/-- Numbers share a place in the order exactly if they are the same number. -/
theorem value_eq_iff : x.value = y.value ↔ x.orderKey = y.orderKey := by
  have alike := ticks_strictMono.injective.eq_iff (a := x.magnitude) (b := y.magnitude)
  have zero : ticks x.magnitude = 0 ↔ x.magnitude = 0 := ticks_eq_zero_iff
  have zero' : ticks y.magnitude = 0 ↔ y.magnitude = 0 := ticks_eq_zero_iff
  rw [← mul_left_inj' (pow_ne_zero places (two_ne_zero : (2 : ℚ) ≠ 0)), value_mul, value_mul]
  unfold orderKey
  cases x.isNegative <;> cases y.isNegative <;>
    simp only [Bool.false_eq_true, ↓reduceIte, one_mul, neg_mul, neg_inj] <;> norm_cast <;> omega

end Binary64

namespace Key

variable {x y : Binary64} {n : Int64}

/-- Which floats are filed under an integer: those that are that integer, but for the
least one. -/
theorem ofBinary64_eq_integer_iff :
    ofBinary64 x = .integer n ↔ x.isFinite ∧ x.value = n.toInt ∧ n ≠ Int64.minValue := by
  have lower := n.le_toInt
  have upper := n.toInt_lt
  have least : n = Int64.minValue ↔ n.toInt = -2 ^ 63 := by
    rw [← Int64.toInt_inj, Value.toInt_minValue]
  have folds : ofBinary64 x = .integer n ↔ foldedInteger? x = some n := by
    unfold ofBinary64
    split <;> simp_all
  rw [folds, ← and_assoc, ← Binary64.toInt?_eq_some_iff, foldedInteger?, Ne, least]
  cases x.toInt? with
  | none => simp
  | some m =>
      dsimp only
      rw [Option.some_inj]
      by_cases within : m.natAbs < 0x8000000000000000
      · rw [if_pos within, Option.some_inj]
        constructor
        · intro same
          rw [← same, Int64.toInt_ofInt_of_le (by omega) (by omega)]
          omega
        · intro same
          rw [same.1, Int64.ofInt_toInt]
      · rw [if_neg within]
        exact iff_of_false (Option.some_ne_none n).symm (by omega)

/-- Floats share a key exactly if they are the same number. -/
theorem ofBinary64_eq_iff (number : y.isNaN = false) :
    ofBinary64 x = ofBinary64 y ↔ x.value = y.value := by
  rw [Binary64.value_eq_iff]
  constructor
  · intro same
    exact (Binary64.compare?_eq_some_eq_iff.mp (compare?_of_ofBinary64_eq number same)).2.2
  · exact ofBinary64_eq_of_orderKey_eq

end Key

namespace Value

variable {a b : Value} {p q : ℚ}

/-- The exact number that an integer or a finite float is. -/
def number? : Value → Option ℚ
  | .integer n => some n.toInt
  | .float x => if x.isFinite then some x.value else none
  | _ => none

/-- Whether a value is an integer. -/
def isInteger : Value → Bool
  | .integer _ => true
  | _ => false

/-- Whether a value is an integer or a float. -/
def isNumeric : Value → Bool
  | .integer _ => true
  | .float _ => true
  | _ => false

/-- Numbers share a key exactly if they are equal, but for the least integer, which has
one key as an integer and one as a float. -/
theorem key_eq_iff_of_number? (first : a.number? = some p) (second : b.number? = some q) :
    Key.ofValue? a = Key.ofValue? b ↔ p = q ∧ (a.isInteger = b.isInteger ∨ p ≠ -2 ^ 63) := by
  have mixed : ∀ {n : Int64} {x : Binary64}, x.isFinite → (Key.ofBinary64 x = .integer n ↔
      x.value = n.toInt ∧ x.value ≠ -2 ^ 63) := by
    intro n x finite
    rw [Key.ofBinary64_eq_integer_iff, and_iff_right finite]
    refine and_congr_right fun same => not_congr ?_
    rw [same, ← Int64.toInt_inj, toInt_minValue]
    norm_cast
  cases a <;> cases b <;> simp only [number?, Option.ite_none_right_eq_some, Option.some_inj,
    reduceCtorEq] at first second
  case integer.integer m n =>
    rw [← first, ← second, and_iff_left (.inl rfl), Int.cast_inj, Int64.toInt_inj]
    simp [Key.ofValue?]
  case integer.float n x =>
    obtain ⟨finite, rfl⟩ := second
    rw [← first]
    simp only [Key.ofValue?, isInteger, Option.some_inj, reduceCtorEq, false_or]
    rw [eq_comm, mixed finite, eq_comm]
    exact and_congr_right fun same => by rw [same]
  case float.integer x n =>
    obtain ⟨finite, rfl⟩ := first
    rw [← second]
    simpa [Key.ofValue?, isInteger] using mixed finite
  case float.float x y =>
    obtain ⟨_, rfl⟩ := first
    obtain ⟨finite, rfl⟩ := second
    rw [and_iff_left (.inl rfl), ← Key.ofBinary64_eq_iff (Binary64.isNaN_of_isFinite finite)]
    exact Option.some_inj

/-- A truth value or a text has its key to itself. -/
theorem eq_of_key_eq (present : a.isNull = false) (other : a.isNumeric = false)
    (same : Key.ofValue? a = Key.ofValue? b) : a = b := by
  have numeric : ∀ x : Binary64,
      (∀ c, Key.boolean c ≠ Key.ofBinary64 x) ∧ ∀ s, Key.text s ≠ Key.ofBinary64 x := by
    intro x
    unfold Key.ofBinary64
    split <;> exact ⟨nofun, nofun⟩
  cases a with
  | null => cases present
  | integer n => cases other
  | float x => cases other
  | boolean c =>
      cases b with
      | float x => exact absurd (Option.some.inj same) ((numeric x).1 c)
      | boolean d =>
          cases same
          rfl
      | _ => cases same
  | text s =>
      cases b with
      | float x => exact absurd (Option.some.inj same) ((numeric x).2 s)
      | text t =>
          cases same
          rfl
      | _ => cases same

/-- Values other than null that share a key are the same: as exact numbers, or as truth
values or texts.  Within a type the values of one key are those that compare as equal,
NaN apart. -/
theorem key_identifies (present : a.isNull = false) (present' : b.isNull = false) :
    (∀ p ∈ a.number?, ∀ q ∈ b.number?, (Key.ofValue? a = Key.ofValue? b ↔
        p = q ∧ (a.isInteger = b.isInteger ∨ p ≠ -2 ^ 63))) ∧
      ((a.isNumeric = false ∨ b.isNumeric = false) → Key.ofValue? a = Key.ofValue? b → a = b) ∧
      ∀ type, a.Fits type → b.Fits type → a.isNaN = false → b.isNaN = false →
        (Key.ofValue? a = Key.ofValue? b ↔ a.comparison b = .ok (some .eq)) := by
  refine ⟨fun p first q second => key_eq_iff_of_number? first second, ?_, ?_⟩
  · rintro (other | other) same
    · exact eq_of_key_eq present other same
    · exact (eq_of_key_eq present' other same.symm).symm
  · intro type fits fits' _ number
    exact (comparison_eq_iff fits fits' present' number).symm

/-- The integer `2 ^ 53 + 1` rounds to the float `2 ^ 53`, so that a condition takes them
for equal, but they are two numbers and have two keys.  The zeros are one. -/
theorem rounded_kept_apart :
    (integer 9007199254740993).comparison (float ⟨0x4340000000000000⟩) = .ok (some .eq) ∧
      Key.ofValue? (integer 9007199254740993) ≠ Key.ofValue? (float ⟨0x4340000000000000⟩) ∧
      Key.ofValue? (float ⟨0⟩) = Key.ofValue? (float ⟨0x8000000000000000⟩) := by
  have whole : (⟨0x4340000000000000⟩ : Binary64).toInt? = some 9007199254740992 := by
    decide +kernel
  obtain ⟨finite, value⟩ := Binary64.toInt?_eq_some_iff.mp whole
  have rounded : (float ⟨0x4340000000000000⟩).number? = some 9007199254740992 := by
    rw [number?, if_pos finite, value]
    rfl
  obtain ⟨numbers, -, -⟩ := key_identifies (a := integer 9007199254740993)
    (b := float ⟨0x4340000000000000⟩) rfl rfl
  obtain ⟨-, -, floats⟩ := key_identifies (a := float ⟨0⟩) (b := float ⟨0x8000000000000000⟩)
    rfl rfl
  refine ⟨by decide +kernel, fun same => ?_, ?_⟩
  · have equal := ((numbers 9007199254740993 rfl 9007199254740992 rounded).mp same).1
    exact absurd equal (by norm_num)
  · exact (floats .float rfl rfl (by decide) (by decide)).mpr (by decide +kernel)

end Value

end Relational
