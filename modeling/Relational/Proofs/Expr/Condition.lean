import Relational.Proofs.Expr.Exchange
import Relational.Proofs.Schema
import Relational.Proofs.Value.Key
import Relational.Query.Plan

/-!
# Conjuncts of a condition

A condition that is met has all of its conjuncts met, since an `AND` is true
only if both of its sides are.  A conjunct that equates a column with a literal
holds of a row only if the cell has the key of the literal: binding has coerced
the literal to the type of the column, and contents of one type that compare
equal share their key.
-/

namespace Relational

namespace Value

/-- A conjunction is true exactly if both its sides are. -/
theorem conjunction_eq_some_true_iff {a b : Option Bool} :
    conjunction a b = some true ↔ a = some true ∧ b = some true := by
  rcases a with _ | _ | _ <;> rcases b with _ | _ | _ <;> simp [conjunction]

theorem truth_ofTruth (outcome : Option Bool) : (ofTruth outcome).truth = .ok outcome := by
  cases outcome <;> rfl

end Value

namespace Expr

variable {scope : Scope} {schema : Schema} {condition left right : Expr}

/-- A condition is met if its value counts as true. -/
theorem isMet_eq_ok_true_iff : condition.isMet scope = .ok true ↔
    ∃ value, condition.evaluate scope = .ok value ∧ value.truth = .ok (some true) := by
  unfold isMet
  simp only [bind_eq_ok, pure_eq_ok, decide_eq_true_eq]
  constructor
  · rintro ⟨value, evaluated, _, outcome, rfl⟩
    exact ⟨value, evaluated, outcome⟩
  · rintro ⟨value, evaluated, outcome⟩
    exact ⟨value, evaluated, _, outcome, rfl⟩

/-! ### What a met condition says of its conjuncts -/

/-- Both sides of a conjunction that is met are met. -/
theorem isMet_of_and (met : (binary .and left right).isMet scope = .ok true) :
    left.isMet scope = .ok true ∧ right.isMet scope = .ok true := by
  obtain ⟨value, evaluated, outcome⟩ := isMet_eq_ok_true_iff.mp met
  obtain ⟨first, evaluated_left, evaluated⟩ := bind_eq_ok.mp evaluated
  split at evaluated
  · cases evaluated
    cases outcome
  · obtain ⟨second, evaluated_right, evaluated⟩ := bind_eq_ok.mp evaluated
    obtain ⟨a, truth_left, evaluated⟩ := bind_eq_ok.mp evaluated
    obtain ⟨b, truth_right, result⟩ := bind_eq_ok.mp evaluated
    rw [← pure_eq_ok.mp result, Value.truth_ofTruth] at outcome
    obtain ⟨rfl, rfl⟩ := Value.conjunction_eq_some_true_iff.mp (Except.ok.inj outcome)
    exact ⟨isMet_eq_ok_true_iff.mpr ⟨first, evaluated_left, truth_left⟩,
      isMet_eq_ok_true_iff.mpr ⟨second, evaluated_right, truth_right⟩⟩

/-- All conjuncts of a condition that is met are met. -/
theorem isMet_of_mem_conjuncts (met : condition.isMet scope = .ok true) :
    ∀ term ∈ condition.conjuncts, term.isMet scope = .ok true := by
  induction condition using conjuncts.induct with
  | case1 left right ih ih' =>
      intro term member
      rw [conjuncts, List.mem_append] at member
      obtain ⟨met, met'⟩ := isMet_of_and met
      rcases member with member | member
      · exact ih met term member
      · exact ih' met' term member
  | case2 condition notAnd =>
      intro term member
      rw [conjuncts, List.mem_singleton] at member
      · rw [member]
        exact met
      · exact notAnd

/-- A conjunct that an index can answer equates a column with a literal, in
either order. -/
theorem eq_of_equality? {term : Expr} {name : String} {value : Value}
    (equates : term.equality? = some (name, value)) :
    term = .binary .equal (.column name) (.literal value) ∨
      term = .binary .equal (.literal value) (.column name) := by
  unfold equality? at equates
  split at equates
  · split at equates <;> cases equates
    exact Or.inl rfl
  · split at equates <;> cases equates
    exact Or.inr rfl
  · cases equates

/-- No condition that counts as an equation equates a column with null. -/
theorem not_isNull_of_equality? {term : Expr} {name : String} {value : Value}
    (equates : term.equality? = some (name, value)) : value.isNull = false := by
  unfold equality? at equates
  split at equates
  · split at equates <;> cases equates
    simp_all
  · split at equates <;> cases equates
    simp_all
  · cases equates

/-- Two values of which `=` is true compare equal. -/
theorem comparison_of_operate {a b value : Value} (operated : operate .equal a b = .ok value)
    (outcome : value.truth = .ok (some true)) : a.comparison b = .ok (some .eq) := by
  obtain ⟨order, compared, result⟩ := bind_eq_ok.mp operated
  rw [← pure_eq_ok.mp result, Value.truth_ofTruth] at outcome
  obtain ⟨_, rfl, equal⟩ := Option.map_eq_some_iff.mp (Except.ok.inj outcome)
  rw [compared, beq_iff_eq.mp equal]

/-- An equation that is met has sides with values that compare as equal. -/
theorem comparison_of_isMet (met : (binary .equal left right).isMet scope = .ok true) :
    ∃ a b, left.evaluate scope = .ok a ∧ right.evaluate scope = .ok b ∧
      a.comparison b = .ok (some .eq) := by
  obtain ⟨value, evaluated, outcome⟩ := isMet_eq_ok_true_iff.mp met
  obtain ⟨a, evaluated_left, evaluated⟩ := bind_eq_ok.mp evaluated
  obtain ⟨b, evaluated_right, operated⟩ := bind_eq_ok.mp evaluated
  exact ⟨a, b, evaluated_left, evaluated_right, comparison_of_operate operated outcome⟩

/-- A row that meets an equality has the key of the literal in the column, if
cell and literal are both of the column's type. -/
theorem key_eq_of_isMet {term : Expr} {name : String} {value cell : Value} {type : ColumnType}
    (equates : term.equality? = some (name, value)) (met : term.isMet scope = .ok true)
    (found : scope.column name = .ok cell) (cell_fits : cell.Fits type)
    (value_fits : value.Fits type) : Key.ofValue? cell = Key.ofValue? value := by
  rcases eq_of_equality? equates with rfl | rfl
  · obtain ⟨a, b, evaluated, evaluated', equal⟩ := comparison_of_isMet met
    cases found.symm.trans evaluated
    cases evaluated'
    exact Value.key_eq_of_comparison_eq cell_fits value_fits equal
  · obtain ⟨a, b, evaluated, evaluated', equal⟩ := comparison_of_isMet met
    cases evaluated
    cases found.symm.trans evaluated'
    exact (Value.key_eq_of_comparison_eq value_fits cell_fits equal).symm

/-! ### Literals of a bound condition -/

/-- A literal coerced for a column fits the type of the column. -/
theorem coerceFor_fits {name : String} {value coerced : Value} {column : Column}
    (declared : schema.column? name = some column)
    (coerces : coerceFor schema name value = .ok coerced) : coerced.Fits column.type := by
  rw [coerceFor, declared] at coerces
  exact Value.coerce_fits coerces

/-- A literal in a coerced equation fits the type of the column beside it. -/
theorem fits_of_coerceComparison {name : String} {value : Value} {column : Column}
    (declared : schema.column? name = some column) {first second : Expr}
    (coerced : coerceComparison schema first second = .ok (left, right))
    (equates : (binary .equal left right).equality? = some (name, value)) :
    value.Fits column.type := by
  unfold coerceComparison at coerced
  split at coerced
  · obtain ⟨literal, coerces, result⟩ := bind_eq_ok.mp coerced
    cases result
    rcases eq_of_equality? equates with same | same <;> cases same
    exact coerceFor_fits declared coerces
  · obtain ⟨literal, coerces, result⟩ := bind_eq_ok.mp coerced
    cases result
    rcases eq_of_equality? equates with same | same <;> cases same
    exact coerceFor_fits declared coerces
  · rename_i neither neither'
    cases coerced
    rcases eq_of_equality? equates with same | same <;> cases same
    · exact absurd rfl (neither name value rfl)
    · exact absurd rfl (neither' value name rfl)

/-- The conjuncts of a bound condition are bound terms. -/
theorem Coerced.of_mem_conjuncts {original : Expr} (bound : Coerced schema original condition)
    {term : Expr} (member : term ∈ condition.conjuncts) :
    ∃ source, Coerced schema source term := by
  induction condition using conjuncts.induct generalizing original with
  | case1 left right ih ih' =>
      rw [conjuncts, List.mem_append] at member
      cases bound with
      | logical _ first second => exact member.elim (ih first) (ih' second)
      | comparison compares => cases compares
      | arithmetic notLogical => exact absurd (.inl rfl) notLogical
      | other notBinary => exact absurd rfl (notBinary _ _ _)
  | case2 condition notAnd =>
      rw [conjuncts, List.mem_singleton] at member
      · rw [member]
        exact ⟨original, bound⟩
      · exact notAnd

/-- An equation in a bound condition stood between the same operands, but for a literal. -/
theorem Coerced.of_equal {original : Expr}
    (bound : Coerced schema original (binary .equal left right)) :
    ∃ first second, coerceComparison schema first second = .ok (left, right) := by
  cases bound with
  | logical logical => exact logical.elim nofun nofun
  | comparison _ converts => exact ⟨_, _, converts⟩
  | arithmetic _ notCompared => exact absurd rfl notCompared
  | other notBinary => exact absurd rfl (notBinary _ _ _)

/-- In a bound condition, a literal that a conjunct equates with a column is of
the column's type. -/
theorem fits_of_coerceLiterals {original : Expr}
    (bound : coerceLiterals schema original = .ok condition) {term : Expr}
    (member : term ∈ condition.conjuncts) {name : String} {value : Value} {column : Column}
    (equates : term.equality? = some (name, value))
    (declared : schema.column? name = some column) : value.Fits column.type := by
  obtain ⟨source, bound⟩ := (Coerced.of_coerceLiterals bound).of_mem_conjuncts member
  rcases eq_of_equality? equates with rfl | rfl
  · obtain ⟨first, second, converts⟩ := bound.of_equal
    exact fits_of_coerceComparison declared converts equates
  · obtain ⟨first, second, converts⟩ := bound.of_equal
    exact fits_of_coerceComparison declared converts equates

end Expr

end Relational
