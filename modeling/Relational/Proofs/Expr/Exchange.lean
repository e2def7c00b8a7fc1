import Relational.Proofs.Fallible
import Relational.Statement.Binding

/-!
# Literals in place of literals

Binding coerces the literals of a condition to the types of the columns beside them.  The
places that it reaches are gone through once here.  That changes nothing but literals: the
condition keeps its form, and whatever does not depend on the values of its literals holds
of it before and after.
-/

namespace Relational

namespace Expr

variable {schema : Schema}

/-- What binding makes of a condition, with a rule for each kind of place that it reaches.
What it does not reach stays as it is. -/
inductive Coerced (schema : Schema) : Expr → Expr → Prop where
  | logical {op : BinaryOperator} (logical : op = .and ∨ op = .or)
      {left left' right right' : Expr} (first : Coerced schema left left')
      (second : Coerced schema right right') :
      Coerced schema (.binary op left right) (.binary op left' right')
  | comparison {op : BinaryOperator} (compares : op.isComparison) {left left' right right' : Expr}
      (converts : coerceComparison schema left right = .ok (left', right')) :
      Coerced schema (.binary op left right) (.binary op left' right')
  | arithmetic {op : BinaryOperator} (notLogical : ¬(op = .and ∨ op = .or))
      (notCompared : ¬op.isComparison) (left right : Expr) :
      Coerced schema (.binary op left right) (.binary op left right)
  | unary (op : UnaryOperator) {operand operand' : Expr} (inner : Coerced schema operand operand') :
      Coerced schema (.unary op operand) (.unary op operand')
  | isIn (name : String) {items items' : List Expr} (negated : Bool)
      (converts : items.mapM (coerceOperand schema name) = .ok items') :
      Coerced schema (.isIn (.column name) items negated) (.isIn (.column name) items' negated)
  | between (name : String) {low low' high high' : Expr} (negated : Bool)
      (converts : coerceOperand schema name low = .ok low')
      (converts' : coerceOperand schema name high = .ok high') :
      Coerced schema (.between (.column name) low high negated)
        (.between (.column name) low' high' negated)
  | other {expression : Expr} (notBinary : ∀ op left right, expression ≠ .binary op left right) :
      Coerced schema expression expression

/-- What coercing the literals of a condition makes of it. -/
theorem Coerced.of_coerceLiterals {condition bound : Expr}
    (coerces : coerceLiterals schema condition = .ok bound) : Coerced schema condition bound := by
  induction condition using coerceLiterals.induct generalizing bound with
  | case1 left right ih ih' =>
      obtain ⟨l, coerces_left, coerces⟩ := bind_eq_ok.mp coerces
      obtain ⟨r, coerces_right, result⟩ := bind_eq_ok.mp coerces
      cases result
      exact .logical (.inl rfl) (ih coerces_left) (ih' coerces_right)
  | case2 left right ih ih' =>
      obtain ⟨l, coerces_left, coerces⟩ := bind_eq_ok.mp coerces
      obtain ⟨r, coerces_right, result⟩ := bind_eq_ok.mp coerces
      cases result
      exact .logical (.inr rfl) (ih coerces_left) (ih' coerces_right)
  | case3 op left right notAnd notOr compares =>
      rw [coerceLiterals, if_pos compares] at coerces
      · obtain ⟨⟨l, r⟩, converts, result⟩ := bind_eq_ok.mp coerces
        cases result
        exact .comparison compares converts
      · exact notAnd
      · exact notOr
  | case4 op left right notAnd notOr compares =>
      rw [coerceLiterals, if_neg compares] at coerces
      · cases coerces
        exact .arithmetic (not_or.mpr ⟨notAnd, notOr⟩) compares left right
      · exact notAnd
      · exact notOr
  | case5 op operand ih =>
      obtain ⟨coerced, converts, result⟩ := bind_eq_ok.mp coerces
      cases result
      exact .unary op (ih converts)
  | case6 name items negated =>
      obtain ⟨coerced, converts, result⟩ := bind_eq_ok.mp coerces
      cases result
      exact .isIn name negated converts
  | case7 name low high negated =>
      obtain ⟨l, coerces_low, coerces⟩ := bind_eq_ok.mp coerces
      obtain ⟨h, coerces_high, result⟩ := bind_eq_ok.mp coerces
      cases result
      exact .between name negated coerces_low coerces_high
  | case8 condition notAnd notOr notBinary notUnary notIn notBetween =>
      have unchanged : coerceLiterals schema condition = .ok condition := by
        rw [coerceLiterals] <;> assumption
      cases unchanged.symm.trans coerces
      exact .other notBinary

/-- An expression in place of itself, or a literal in place of a literal. -/
inductive Exchanged : Expr → Expr → Prop where
  | same (expression : Expr) : Exchanged expression expression
  | literal (value other : Value) : Exchanged (.literal value) (.literal other)

/-- The second expression is the first one with other literals in some places. -/
inductive SameForm : Expr → Expr → Prop where
  | exchanged {expression other : Expr} (exchanged : Exchanged expression other) :
      SameForm expression other
  | binary (op : BinaryOperator) {left left' right right' : Expr} (first : SameForm left left')
      (second : SameForm right right') : SameForm (.binary op left right) (.binary op left' right')
  | unary (op : UnaryOperator) {operand operand' : Expr} (inner : SameForm operand operand') :
      SameForm (.unary op operand) (.unary op operand')
  | isIn (operand : Expr) {items items' : List Expr} (negated : Bool)
      (each : List.Forall₂ Exchanged items items') :
      SameForm (.isIn operand items negated) (.isIn operand items' negated)
  | between (operand : Expr) {low low' high high' : Expr} (negated : Bool)
      (first : Exchanged low low') (second : Exchanged high high') :
      SameForm (.between operand low high negated) (.between operand low' high' negated)

/-- Coercing an operand exchanges at most a literal. -/
theorem exchanged_of_coerceOperand {name : String} {operand coerced : Expr}
    (coerces : coerceOperand schema name operand = .ok coerced) : operand.Exchanged coerced := by
  unfold coerceOperand at coerces
  split at coerces
  · obtain ⟨value, -, result⟩ := bind_eq_ok.mp coerces
    cases result
    exact .literal _ value
  · cases coerces
    exact .same operand

/-- Coercing a comparison exchanges at most a literal on one side. -/
theorem exchanged_of_coerceComparison {left right left' right' : Expr}
    (coerces : coerceComparison schema left right = .ok (left', right')) :
    left.Exchanged left' ∧ right.Exchanged right' := by
  unfold coerceComparison at coerces
  split at coerces
  · obtain ⟨value, -, result⟩ := bind_eq_ok.mp coerces
    cases result
    exact ⟨.same _, .literal _ value⟩
  · obtain ⟨value, -, result⟩ := bind_eq_ok.mp coerces
    cases result
    exact ⟨.literal _ value, .same _⟩
  · cases coerces
    exact ⟨.same left, .same right⟩

/-- Coercing the literals of a condition changes nothing but literals. -/
theorem sameForm_of_coerceLiterals {condition bound : Expr}
    (coerces : coerceLiterals schema condition = .ok bound) : condition.SameForm bound := by
  have coerced := Coerced.of_coerceLiterals coerces
  clear coerces
  induction coerced with
  | logical _ _ _ first second => exact .binary _ first second
  | comparison _ converts =>
      obtain ⟨first, second⟩ := exchanged_of_coerceComparison converts
      exact .binary _ (.exchanged first) (.exchanged second)
  | arithmetic | other => exact .exchanged (.same _)
  | unary op _ inner => exact .unary op inner
  | isIn name negated converts =>
      exact .isIn _ negated ((mapM_eq_ok.mp converts).imp fun _ _ => exchanged_of_coerceOperand)
  | between name negated converts converts' =>
      exact .between _ negated (exchanged_of_coerceOperand converts)
        (exchanged_of_coerceOperand converts')

end Expr

end Relational
