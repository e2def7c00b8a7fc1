import Relational.Proofs.Expr.Exchange
import Relational.Proofs.Expr.Failure

/-!
# Well-formed expressions

The type of expressions has trees that nothing should build: a function without its
arguments, an interval on its own, a sum of nothing.  Evaluation has errors for the first
two.  A well-formed expression has no such part, so that it never fails for its form, in
whatever scope it is evaluated.  It stays well formed where literals are replaced by
literals, which is all that coercion does to a condition.
-/

namespace Relational

namespace Expr

/-- The forms of expressions: a function has its number of arguments, an interval stands
only where a date subtraction has its second argument, only a count of rows goes without
argument, and no list of items is empty. -/
inductive WellFormed : Expr → Prop where
  | column (name : String) : WellFormed (.column name)
  | literal (value : Value) : WellFormed (.literal value)
  | binary {op : BinaryOperator} {left right : Expr} (first : WellFormed left)
      (second : WellFormed right) : WellFormed (.binary op left right)
  | unary {op : UnaryOperator} {operand : Expr} (inner : WellFormed operand) :
      WellFormed (.unary op operand)
  | rowCount : WellFormed (.aggregate .count none false)
  | aggregate {function : AggregateFunction} {argument : Expr} {distinct : Bool}
      (inner : WellFormed argument) : WellFormed (.aggregate function (some argument) distinct)
  | call {function : ScalarFunction} {arguments : List Expr}
      (arity : arguments.length = function.arity)
      (each : ∀ argument ∈ arguments, WellFormed argument) : WellFormed (.call function arguments)
  | earlier {base amount : Expr} {unit : IntervalUnit} (first : WellFormed base)
      (second : WellFormed amount) : WellFormed (.call .dateSub [base, .interval amount unit])
  | isIn {operand : Expr} {items : List Expr} {negated : Bool} (first : WellFormed operand)
      (some_item : items ≠ []) (each : ∀ item ∈ items, WellFormed item) :
      WellFormed (.isIn operand items negated)
  | between {operand low high : Expr} {negated : Bool} (first : WellFormed operand)
      (second : WellFormed low) (third : WellFormed high) :
      WellFormed (.between operand low high negated)
  | like {operand pattern : Expr} {negated : Bool} (first : WellFormed operand)
      (second : WellFormed pattern) : WellFormed (.like operand pattern negated)
  | isNull {operand : Expr} {negated : Bool} (inner : WellFormed operand) :
      WellFormed (.isNull operand negated)

variable {expression : Expr} {kind : Error → Prop} {scope : Scope}

/-! ### Evaluation -/

/-- Nothing is wrong with the form of a call with the right number of arguments. -/
theorem formFault?_of_arity {function : ScalarFunction} {arguments : List Expr}
    (arity : arguments.length = function.arity) :
    (Expr.call function arguments).formFault? = none := by
  cases function <;> simp [formFault?, arity, ScalarFunction.arity]

/-- A well-formed expression fails only as its scope does or for its values. -/
theorem WellFormed.looksUp (formed : expression.WellFormed)
    (columns : ∀ name, FailsOnly kind (scope.column name))
    (calls : ∀ call, FailsOnly kind (scope.aggregate call)) :
    expression.LooksUp kind scope := by
  induction formed with
  | column name => exact .column (columns name)
  | rowCount => exact .aggregate (calls _)
  | aggregate => exact .aggregate (calls _)
  | literal value => exact .of_parts nofun rfl nofun nofun
  | binary _ _ ih ih' =>
      exact .of_parts nofun rfl nofun
        (List.forall_mem_cons.mpr ⟨ih, List.forall_mem_singleton.mpr ih'⟩)
  | unary _ ih => exact .of_parts nofun rfl nofun (List.forall_mem_singleton.mpr ih)
  | call arity _ ih =>
      refine .of_parts nofun rfl ?_ (List.forall_mem_map.mpr ih)
      rw [formFault?_of_arity arity]
      exact nofun
  | earlier _ _ ih ih' =>
      exact .compound nofun rfl nofun
        (List.forall_mem_cons.mpr ⟨ih, List.forall_mem_singleton.mpr ih'⟩)
  | isIn _ _ _ ih ih' =>
      exact .of_parts nofun rfl nofun
        (List.forall_mem_cons.mpr ⟨ih, List.forall_mem_map.mpr ih'⟩)
  | between _ _ _ ih ih' ih'' =>
      exact .of_parts nofun rfl nofun (List.forall_mem_cons.mpr
        ⟨ih, List.forall_mem_cons.mpr ⟨ih', List.forall_mem_singleton.mpr ih''⟩⟩)
  | like _ _ ih ih' =>
      exact .of_parts nofun rfl nofun
        (List.forall_mem_cons.mpr ⟨ih, List.forall_mem_singleton.mpr ih'⟩)
  | isNull _ ih => exact .of_parts nofun rfl nofun (List.forall_mem_singleton.mpr ih)

end Expr

namespace Scope

variable {kind : Error → Prop} {now : DateTime} {scope : Scope} {expression : Expr}

/-- What is looked up in a scope is there, or fails with an error of some kind. -/
structure Answers (kind : Error → Prop) (scope : Scope) : Prop where
  column : ∀ name, FailsOnly kind (scope.column name)
  aggregate : ∀ call, FailsOnly kind (scope.aggregate call)

namespace Answers

variable (answers : scope.Answers kind) (general : Allows kind Error.isGeneral)
variable (form : Allows kind Error.isOfForm ∨ expression.WellFormed)

include answers form

/-- A well-formed expression looks up what it needs where the scope answers. -/
theorem looksUp : expression.LooksUp kind scope := by
  rcases form with allowed | formed
  · exact Expr.looksUp_of_scope allowed answers.column answers.aggregate expression
  · exact formed.looksUp answers.column answers.aggregate

include general

/-- Errors of form have to be of the kind, or the expression well formed. -/
theorem evaluate : FailsOnly kind (expression.evaluate scope) :=
  Expr.evaluate_failsOnly general.ofValues (answers.looksUp form)

theorem isMet : FailsOnly kind (expression.isMet scope) :=
  Expr.isMet_failsOnly general.ofValues (answers.looksUp form)

end Answers

section

variable (general : Allows kind Error.isGeneral)

include general

theorem noAggregate_failsOnly (call : Expr) : FailsOnly kind (noAggregate call) :=
  .error (general _ rfl)

theorem empty_answers (now : DateTime) (table : String) : (Scope.empty now table).Answers kind :=
  ⟨fun _ => .error (general _ rfl), noAggregate_failsOnly general⟩

/-- The scope of a row answers. -/
theorem ofRow_answers (now : DateTime) (schema : Schema) (row : Row) :
    (Scope.ofRow now schema row).Answers kind := by
  refine ⟨fun name => ?_, noAggregate_failsOnly general⟩
  unfold Scope.ofRow
  dsimp only
  split
  · exact .ok _
  · exact .error (general _ rfl)

end

end Scope

namespace Expr

variable {expression : Expr}

/-! ### Parts and nodes -/

/-- What may stand inside a well-formed expression. -/
inductive FormedPart : Expr → Prop where
  | formed {expression : Expr} (formed : expression.WellFormed) : FormedPart expression
  | interval {amount : Expr} (unit : IntervalUnit) (formed : amount.WellFormed) :
      FormedPart (.interval amount unit)

/-- A well-formed expression has well-formed parts, unless it is a date subtraction with
an interval. -/
theorem WellFormed.parts_or_earlier (formed : expression.WellFormed) :
    (∀ part ∈ expression.parts, part.2.WellFormed) ∨ ∃ base amount unit,
      expression = .call .dateSub [base, .interval amount unit] ∧
        base.WellFormed ∧ amount.WellFormed := by
  cases formed with
  | column | literal | rowCount => exact .inl nofun
  | binary first second | like first second =>
      exact .inl (List.forall_mem_cons.mpr ⟨first, List.forall_mem_singleton.mpr second⟩)
  | unary inner | aggregate inner | isNull inner =>
      exact .inl (List.forall_mem_singleton.mpr inner)
  | call _ each => exact .inl (List.forall_mem_map.mpr each)
  | earlier first second => exact .inr ⟨_, _, _, rfl, first, second⟩
  | isIn first _ each =>
      exact .inl (List.forall_mem_cons.mpr ⟨first, List.forall_mem_map.mpr each⟩)
  | between first second third =>
      exact .inl (List.forall_mem_cons.mpr
        ⟨first, List.forall_mem_cons.mpr ⟨second, List.forall_mem_singleton.mpr third⟩⟩)

/-- The parts of a well-formed expression are formed parts. -/
theorem WellFormed.of_mem_parts (formed : expression.WellFormed) {part : Descent × Expr}
    (member : part ∈ expression.parts) : part.2.FormedPart := by
  rcases formed.parts_or_earlier with all | ⟨base, amount, unit, rfl, first, second⟩
  · exact .formed (all part member)
  · rcases List.mem_pair.mp member with rfl | rfl
    · exact .formed first
    · exact .interval unit second

/-- The nodes of a formed part are formed parts. -/
theorem FormedPart.of_mem_nodes (formed : expression.FormedPart) {node : Expr}
    (inside : node ∈ expression.nodes) : node.FormedPart := by
  induction expression using induction_on_parts with
  | step expression ih =>
      rw [nodes_eq] at inside
      rcases List.mem_cons.mp inside with rfl | inside
      · exact formed
      · obtain ⟨part, member, inside⟩ := List.mem_flatMap.mp inside
        refine ih part member ?_ inside
        cases formed with
        | formed formed => exact formed.of_mem_parts member
        | interval unit formed =>
            rw [List.mem_singleton.mp member]
            exact .formed formed

/-! ### Literals -/

/-- Exchanging literals keeps an expression well formed. -/
theorem WellFormed.exchanged {other : Expr} (formed : expression.WellFormed)
    (exchanged : expression.Exchanged other) : other.WellFormed := by
  cases exchanged with
  | same => exact formed
  | literal _ value => exact .literal value

/-- Expressions of one form are well formed alike. -/
theorem WellFormed.sameForm {other : Expr} (formed : expression.WellFormed)
    (same : expression.SameForm other) : other.WellFormed := by
  induction same with
  | exchanged exchanged => exact formed.exchanged exchanged
  | binary op _ _ ih ih' =>
      cases formed with
      | binary first second => exact .binary (ih first) (ih' second)
  | unary op _ ih =>
      cases formed with
      | unary inner => exact .unary (ih inner)
  | isIn operand negated replaced =>
      cases formed with
      | isIn first some_item each =>
          refine .isIn first ?_ fun item member => ?_
          · intro none
            rw [none, List.forall₂_nil_right_iff] at replaced
            exact some_item replaced
          · obtain ⟨original, among, exchanged⟩ := exists_of_forall₂ replaced.flip member
            exact (each original among).exchanged exchanged
  | between operand negated first second =>
      cases formed with
      | between inner low high => exact .between inner (low.exchanged first) (high.exchanged second)

/-- A condition stays well formed when its literals are coerced. -/
theorem WellFormed.coerceCondition {schema : Schema} {condition bound : Option Expr}
    (formed : ∀ expression ∈ condition, expression.WellFormed)
    (coerces : Expr.coerceCondition schema condition = .ok bound) :
    ∀ expression ∈ bound, expression.WellFormed := by
  cases condition with
  | none =>
      cases coerces
      exact nofun
  | some original =>
      obtain ⟨coerced, converts, result⟩ := bind_eq_ok.mp coerces
      cases result
      intro expression same
      cases same
      exact (formed original rfl).sameForm (sameForm_of_coerceLiterals converts)

end Expr

end Relational
