import Relational.Proofs.Binary64.Rounding
import Relational.Proofs.Value.Comparison

/-!
# Equal keys and equal contents

Contents of one column always have an order, or none because one of them is null
or NaN.  Unless one of them is NaN, they are equal exactly if they have the same
key, and a coercion never makes a NaN of anything else.
-/

namespace Relational

namespace Key

/-- A float that is folded into an integer has the value of this integer. -/
theorem toInt?_of_foldedInteger? {x : Binary64} {n : Int64}
    (folds : foldedInteger? x = some n) : x.toInt? = some n.toInt := by
  unfold foldedInteger? at folds
  split at folds
  · rename_i m denotes
    split at folds
    · rename_i bounded
      rw [denotes, ← Option.some.inj folds, Int64.toInt_ofInt_of_le (by omega) (by omega)]
    · cases folds
  · cases folds

/-- Two floats of one key are equal, unless they are NaN. -/
theorem compare?_of_ofBinary64_eq {x y : Binary64} (number : y.isNaN = false)
    (same : ofBinary64 x = ofBinary64 y) : Binary64.compare? x y = some .eq := by
  unfold ofBinary64 at same
  split at same
  · rename_i n folds
    split at same
    · rename_i n' folds'
      cases same
      rw [Binary64.compare?_of_toInt? (toInt?_of_foldedInteger? folds)
        (toInt?_of_foldedInteger? folds'), Int.compare_eq_eq.mpr rfl]
    · cases same
  · split at same
    · cases same
    · cases same
      exact Binary64.compare?_eq_some_eq_iff.mpr ⟨number, number, rfl⟩

end Key

namespace Value

variable {a b value converted : Value} {type : ColumnType}

/-- Whether a value is a float that denotes no number. -/
def isNaN : Value → Bool
  | .float x => x.isNaN
  | _ => false

/-- No coercion makes a NaN. -/
theorem convert?_number (number : value.isNaN = false)
    (converts : value.convert? type = some converted) : converted.isNaN = false := by
  cases Conversion.of_convert? converts with
  | kept => exact number
  | nearest n => exact Binary64.isNaN_ofInt64 n
  | readFloat reads => exact Binary64.isNaN_of_isFinite (Option.filter_eq_some_iff.mp reads).2
  | bit | integral | readInteger | readBoolean => rfl

theorem coerce_eq_ok_iff {column : String} :
    value.coerce type column = .ok converted ↔ value.convert? type = some converted := by
  unfold coerce
  split <;> simp_all

/-- Contents of one column can be compared. -/
theorem exists_comparison (left : Fits type a) (right : Fits type b) :
    ∃ order, a.comparison b = .ok order := by
  cases a <;> cases b <;> cases left <;> cases right
  case float.float x y => exact ⟨_, comparison_of_numbers rfl rfl rfl⟩
  all_goals exact ⟨_, rfl⟩

/-- Contents of one column are equal exactly if they have the same key. -/
theorem comparison_eq_iff (left : Fits type a) (right : Fits type b) (present : b.isNull = false)
    (number : b.isNaN = false) :
    a.comparison b = .ok (some .eq) ↔ Key.ofValue? a = Key.ofValue? b := by
  refine ⟨key_eq_of_comparison_eq left right, fun same => ?_⟩
  cases a <;> cases b <;> cases left <;> cases right
  case float.float x y =>
    rw [comparison_of_numbers rfl rfl rfl]
    exact congrArg Except.ok (Key.compare?_of_ofBinary64_eq number (Option.some.inj same))
  case integer.integer m n =>
    cases same
    exact congrArg (fun order => Except.ok (some order)) (Int.compare_eq_eq.mpr rfl)
  case boolean.boolean p q =>
    cases same
    cases p <;> rfl
  case text.text s t =>
    cases same
    have order : compareText s s = .eq := by simp [compareText, compareOfLessAndEq]
    exact congrArg (fun order => Except.ok (some order)) order
  case null.null => cases present
  all_goals cases same

end Value

end Relational
