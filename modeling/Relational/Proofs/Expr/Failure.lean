import Relational.Expr.Evaluation
import Relational.Proofs.Expr.Height
import Relational.Proofs.Fallible

/-!
# Errors of evaluation

Evaluation fails for the values that it meets, because it looks up a column or an
aggregate that its scope does not have a value for, or because a call or an interval is
not of the form that it has to be.  So whatever look-ups and forms fail for, evaluation
fails for that, or in one of the few ways in which values can be at fault.
-/

namespace Relational

/-- Errors about the values that are computed with. -/
def Error.isOfValues : Error → Bool
  | .typeMismatch _ => true
  | .invalidQuery .integerOverflow => true
  | .invalidQuery (.integerOverflowIn _) => true
  | _ => false

/-- Errors about the form of an expression: the number of arguments of a call, or an
interval out of its place. -/
def Error.isOfForm : Error → Bool
  | .invalidQuery .strayInterval => true
  | .invalidQuery .dateSubArity => true
  | .invalidQuery (.unaryFunctionArity _) => true
  | _ => false

/-- Errors about a position at which there is nothing. -/
def Error.isOutOfRange : Error → Bool
  | .invalidQuery (.positionOutOfRange _) => true
  | _ => false

/-- Errors that neither a form nor a position is to blame for. -/
def Error.isGeneral (error : Error) : Bool :=
  !error.isOfForm && !error.isOutOfRange

/-- The errors of a class are of some kind. -/
abbrev Allows (kind : Error → Prop) (errors : Error → Bool) : Prop :=
  ∀ error, errors error → kind error

theorem Error.isGeneral_of_isOfValues (error : Error) (own : error.isOfValues) :
    error.isGeneral := by
  unfold isOfValues at own
  split at own <;> first | rfl | cases own

theorem Allows.ofValues {kind : Error → Prop} (general : Allows kind Error.isGeneral) :
    Allows kind Error.isOfValues :=
  fun error own => general error (error.isGeneral_of_isOfValues own)

/-- A computation does not fail for the form of an expression. -/
abbrev InForm {α : Type} (computed : Except Error α) : Prop :=
  FailsOnly (fun error => error.isOfForm = false) computed

/-- A computation does not fail for a position at which there is nothing. -/
abbrev InRange {α : Type} (computed : Except Error α) : Prop :=
  FailsOnly (fun error => error.isOutOfRange = false) computed

theorem InForm.general : Allows (fun error => error.isOfForm = false) Error.isGeneral :=
  fun error general => by simpa using (Bool.and_eq_true_iff.mp general).1

theorem InRange.general : Allows (fun error => error.isOutOfRange = false) Error.isGeneral :=
  fun error general => by simpa using (Bool.and_eq_true_iff.mp general).2

/-- Errors of positions are none of form. -/
theorem InForm.positions : Allows (fun error => error.isOfForm = false) Error.isOutOfRange := by
  intro error position
  unfold Error.isOutOfRange at position
  split at position
  · rfl
  · cases position

/-- Errors of form are none of positions. -/
theorem InRange.forms : Allows (fun error => error.isOutOfRange = false) Error.isOfForm := by
  intro error form
  unfold Error.isOfForm at form
  split at form <;> first | rfl | cases form

/-! ### Computations on values -/

namespace Value

/-- Taking a value as a truth value fails only for the value. -/
theorem truth_failsOnly (value : Value) : FailsOnly (Error.isOfValues ·) value.truth := by
  cases value with
  | text s => exact .error rfl
  | float x => exact .error rfl
  | _ => exact .ok _

/-- A comparison fails only for its values. -/
theorem comparison_failsOnly (left right : Value) :
    FailsOnly (Error.isOfValues ·) (left.comparison right) := by
  unfold comparison
  split
  · exact .ok _
  · split
    · exact .ok _
    · split
      · exact .ok _
      · exact .error rfl

/-- Matching a pattern fails only for the values. -/
theorem likeness_failsOnly (value pattern : Value) (negated : Bool) :
    FailsOnly (Error.isOfValues ·) (value.likeness pattern negated) := by
  unfold likeness
  split
  · exact .ok _
  · exact .ok _
  · exact .ok _
  · exact .error rfl

theorem betweenness_failsOnly (value low high : Value) (negated : Bool) :
    FailsOnly (Error.isOfValues ·) (value.betweenness low high negated) :=
  (comparison_failsOnly value low).bind fun _ _ =>
    (comparison_failsOnly value high).bind fun _ _ => .pure _

/-- Taking a part of a moment never fails. -/
theorem moment_failsOnly (value : Value) (part : DateTime → Value) :
    FailsOnly (Error.isOfValues ·) (match value.moment? with
      | some moment => Pure.pure (part moment)
      | none => Pure.pure null) := by
  split <;> exact .pure _

/-- Subtracting from a date fails only for the values. -/
theorem dateSub_failsOnly (base amount : Value) (unit : IntervalUnit) :
    FailsOnly (Error.isOfValues ·) (base.dateSub amount unit) := by
  unfold dateSub
  split
  · exact .ok _
  · split
    · split <;> exact .ok _
    · exact .ok _
    · exact .error rfl

end Value

namespace Arithmetic

/-- Taking a value as a number fails only for the value. -/
theorem operand_failsOnly (value : Value) :
    FailsOnly (Error.isOfValues ·) (Operand.ofValue value) := by
  unfold Operand.ofValue
  split
  · exact .ok _
  · exact .ok _
  · dsimp only
    split
    · exact .ok _
    · split
      · exact .ok _
      · exact .error rfl
  · exact .error rfl

/-- Exact arithmetic fails only for its result. -/
theorem exact_failsOnly (operation : Arithmetic) (n : Int) :
    FailsOnly (Error.isOfValues ·) (operation.exact n) := by
  unfold exact
  split
  · exact .ok _
  · exact .error rfl

/-- Arithmetic fails only for its values. -/
theorem apply_failsOnly (operation : Arithmetic) (left right : Value) :
    FailsOnly (Error.isOfValues ·) (operation.apply left right) := by
  unfold apply
  split
  · exact .ok _
  · refine (operand_failsOnly left).bind fun x _ => (operand_failsOnly right).bind fun y _ => ?_
    split
    · cases operation with
      | divide => exact .ok _
      | _ => exact exact_failsOnly _ _
    · exact .ok _

/-- Changing a sign fails only for the value. -/
theorem negate_failsOnly (value : Value) : FailsOnly (Error.isOfValues ·) (negate value) := by
  cases value with
  | integer n =>
      change FailsOnly (Error.isOfValues ·) (if n = Int64.minValue then _ else _)
      split
      · exact .error rfl
      · exact .ok _
  | float | null => exact .ok _
  | boolean | text => exact .error rfl

end Arithmetic

namespace Expr

/-- An operator fails only for its values. -/
theorem operate_failsOnly (op : BinaryOperator) (left right : Value) :
    FailsOnly (Error.isOfValues ·) (operate op left right) := by
  unfold operate
  split
  · exact (Value.comparison_failsOnly left right).bind fun _ _ => .pure _
  · split
    · exact Arithmetic.apply_failsOnly _ _ _
    · exact .ok _

/-! ### Expressions -/

/-- The expressions whose values an expression is computed from: its parts, except that
a date subtraction takes the amount of an interval in place of the interval. -/
def operands : Expr → List Expr
  | .call .dateSub [base, .interval amount _] => [base, amount]
  | expression => expression.parts.map Prod.snd

/-- The error that the form of an expression leads to, whatever its operands are. -/
def formFault? : Expr → Option Error
  | .interval _ _ => some (.invalidQuery .strayInterval)
  | .call .now _ => none
  | .call .dateSub arguments =>
    if arguments.length = 2 then none else some (.invalidQuery .dateSubArity)
  | .call function arguments =>
    if arguments.length = 1 then none
    else some (.invalidQuery (.unaryFunctionArity function.name))
  | _ => none

variable {kind : Error → Prop} {scope : Scope} {expression : Expr}

/-- What is wrong with the form of an expression is an error of form. -/
theorem isOfForm_of_formFault? {fault : Error} (found : fault ∈ expression.formFault?) :
    fault.isOfForm := by
  unfold formFault? at found
  split at found
  · cases found
    rfl
  · cases found
  · split at found <;> cases found
    rfl
  · split at found <;> cases found
    rfl
  · cases found

/-- Every column and every aggregate of an expression has a value in a scope, or
fails with an error of some kind, and where its form is at fault the error is of that
kind as well.  What stands inside an aggregate is a matter of its rows. -/
inductive LooksUp (kind : Error → Prop) (scope : Scope) : Expr → Prop where
  | column {name : String} (known : FailsOnly kind (scope.column name)) :
      LooksUp kind scope (.column name)
  | aggregate {function : AggregateFunction} {argument : Option Expr} {distinct : Bool}
      (known : FailsOnly kind (scope.aggregate (.aggregate function argument distinct))) :
      LooksUp kind scope (.aggregate function argument distinct)
  | compound {expression : Expr} (no_column : ∀ name, expression ≠ .column name)
      (no_aggregate : expression.isAggregate = false)
      (form : ∀ fault ∈ expression.formFault?, kind fault)
      (values : ∀ operand ∈ expression.operands, LooksUp kind scope operand) :
      LooksUp kind scope expression

/-- An operand is a part, or the amount of an interval that is a part. -/
theorem LooksUp.of_parts (no_column : ∀ name, expression ≠ .column name)
    (no_aggregate : expression.isAggregate = false)
    (form : ∀ fault ∈ expression.formFault?, kind fault)
    (parts : ∀ part ∈ expression.parts, part.2.LooksUp kind scope) :
    expression.LooksUp kind scope := by
  refine .compound no_column no_aggregate form ?_
  unfold operands
  split
  · rename_i base amount unit
    simp only [Expr.parts, List.map_cons, List.map_nil, List.forall_mem_cons] at parts
    obtain ⟨first, interval, -⟩ := parts
    cases interval with
    | compound _ _ _ values =>
        exact List.forall_mem_cons.mpr ⟨first, values⟩
  · exact List.forall_mem_map.mpr parts

/-- Where all look-ups fail in the same ways as forms do, neither the names in an
expression nor its form matter. -/
theorem looksUp_of_scope (form : Allows kind Error.isOfForm)
    (columns : ∀ name, FailsOnly kind (scope.column name))
    (calls : ∀ call, FailsOnly kind (scope.aggregate call)) (expression : Expr) :
    expression.LooksUp kind scope := by
  induction expression using induction_on_parts with
  | step expression ih =>
      have faults : ∀ fault ∈ expression.formFault?, kind fault :=
        fun fault found => form fault (isOfForm_of_formFault? found)
      cases expression with
      | column name => exact .column (columns name)
      | aggregate function argument distinct => exact .aggregate (calls _)
      | _ => exact .of_parts nofun rfl faults ih

variable (own : Allows kind Error.isOfValues)

include own

/-- Searching for a value fails only for values, and as evaluating the items does. -/
theorem membership_failsOnly {items : List Expr}
    (each : ∀ item ∈ items, FailsOnly kind (item.evaluate scope)) (value : Value)
    (negated unknown : Bool) : FailsOnly kind (membership scope value negated unknown items) := by
  induction items generalizing unknown with
  | nil => exact .ok _
  | cons item rest ih =>
      obtain ⟨head, tail⟩ := List.forall_mem_cons.mp each
      rw [membership]
      refine head.bind fun candidate _ =>
        ((Value.comparison_failsOnly _ _).imp own).bind fun order _ => ?_
      split
      · exact .pure _
      · exact ih tail unknown
      · exact ih tail true

/-- A call fails only for values, for its form, and as evaluating its arguments does. -/
theorem call_failsOnly {function : ScalarFunction} {arguments : List Expr}
    (form : ∀ fault ∈ (call function arguments).formFault?, kind fault)
    (each : ∀ operand ∈ (call function arguments).operands,
      FailsOnly kind (operand.evaluate scope)) :
    FailsOnly kind ((call function arguments).evaluate scope) := by
  have earlier : ∀ {base amount : Expr} (unit : IntervalUnit),
      FailsOnly kind (base.evaluate scope) → FailsOnly kind (amount.evaluate scope) →
      FailsOnly kind (do
        let start ← base.evaluate scope
        if start.moment?.isNone then Pure.pure Value.null
        else
          let n ← amount.evaluate scope
          start.dateSub n unit) := by
    intro base amount unit first second
    refine first.bind fun start _ => ?_
    split
    · exact .pure _
    · exact second.bind fun n _ => (Value.dateSub_failsOnly start n unit).imp own
  rcases arguments with _ | ⟨first, _ | ⟨second, _ | ⟨third, rest⟩⟩⟩
  · cases function <;> first | exact .ok _ | exact .error (form _ rfl)
  · cases function with
    | now => exact .ok _
    | dateSub => exact .error (form _ rfl)
    | _ =>
        exact (each first (.head _)).bind fun content _ => (content.moment_failsOnly _).imp own
  · cases function with
    | now => exact .ok _
    | dateSub =>
        cases second with
        | interval amount unit => exact earlier unit (each _ (.head _)) (each _ (.tail _ (.head _)))
        | _ => exact earlier .day (each _ (.head _)) (each _ (.tail _ (.head _)))
    | _ => exact .error (form _ rfl)
  · cases function with
    | now => exact .ok _
    | dateSub => cases second <;> exact .error (form _ rfl)
    | _ => exact .error (form _ rfl)

/-- An operator fails for its operands, or for what they come to. -/
theorem binary_failsOnly (op : BinaryOperator) {left right : Expr}
    (first : FailsOnly kind (left.evaluate scope)) (second : FailsOnly kind (right.evaluate scope)) :
    FailsOnly kind ((binary op left right).evaluate scope) := by
  have outcome (op : Option Bool → Option Bool → Option Bool) (l r : Value) :
      FailsOnly kind (do
        let a ← l.truth
        let b ← r.truth
        Pure.pure (Value.ofTruth (op a b))) :=
    ((Value.truth_failsOnly l).imp own).bind fun _ _ =>
      ((Value.truth_failsOnly r).imp own).bind fun _ _ => .pure _
  have decided (decisive : Bool) (op : Option Bool → Option Bool → Option Bool) :
      FailsOnly kind (do
        let l ← left.evaluate scope
        if l = .boolean decisive then Pure.pure (Value.boolean decisive)
        else
          let r ← right.evaluate scope
          let a ← l.truth
          let b ← r.truth
          Pure.pure (Value.ofTruth (op a b))) := by
    refine first.bind fun l _ => ?_
    split
    · exact .pure _
    · exact second.bind fun r _ => outcome op l r
  cases op with
  | and => exact decided false Value.conjunction
  | or => exact decided true Value.disjunction
  | _ => exact first.bind fun l _ => second.bind fun r _ => (operate_failsOnly _ l r).imp own

/-- An expression fails for what it looks up, for its form or for its values. -/
theorem evaluate_failsOnly (looksUp : expression.LooksUp kind scope) :
    FailsOnly kind (expression.evaluate scope) := by
  induction looksUp with
  | column known => exact known
  | aggregate known => exact known
  | @compound expression no_column no_aggregate form _ value =>
      cases expression with
      | column name => exact absurd rfl (no_column name)
      | literal content => exact .ok content
      | aggregate function argument distinct => cases no_aggregate
      | binary op left right =>
          exact binary_failsOnly own op (value _ (.head _)) (value _ (.tail _ (.head _)))
      | unary op operand =>
          have known := value _ (.head _)
          cases op with
          | not =>
              exact known.bind fun content _ =>
                ((Value.truth_failsOnly content).imp own).bind fun _ _ => .pure _
          | minus =>
              exact known.bind fun content _ => (Arithmetic.negate_failsOnly content).imp own
      | call function arguments => exact call_failsOnly own form value
      | interval amount unit => exact .error (form _ rfl)
      | isIn operand items negated =>
          refine (value _ (.head _)).bind fun content _ => ?_
          split
          · exact .pure _
          · refine membership_failsOnly own (fun item member => ?_) _ _ _
            exact value item (.tail _ (List.mem_map.mpr ⟨(item.descent, item),
              List.mem_map.mpr ⟨item, member, rfl⟩, rfl⟩))
      | between operand low high negated =>
          exact (value _ (.head _)).bind fun content _ => (value _ (.tail _ (.head _))).bind
            fun lower _ => (value _ (.tail _ (.tail _ (.head _)))).bind fun upper _ =>
              (Value.betweenness_failsOnly content lower upper negated).imp own
      | like operand pattern negated =>
          exact (value _ (.head _)).bind fun content _ => (value _ (.tail _ (.head _))).bind
            fun shape _ => (Value.likeness_failsOnly content shape negated).imp own
      | isNull operand negated =>
          exact (value _ (.head _)).bind fun content _ => .pure _

/-- Testing a condition fails only for values, for its form, and as its look-ups do. -/
theorem isMet_failsOnly {condition : Expr} (looksUp : condition.LooksUp kind scope) :
    FailsOnly kind (condition.isMet scope) :=
  (evaluate_failsOnly own looksUp).bind fun value _ =>
    ((Value.truth_failsOnly value).imp own).bind fun _ _ => .pure _

end Expr

end Relational
