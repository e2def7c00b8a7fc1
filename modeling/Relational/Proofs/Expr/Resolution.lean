import Relational.Proofs.Expr.Exchange
import Relational.Proofs.Expr.Failure

/-!
# Names that are settled before evaluation

Evaluation may fail for the values that it meets.  It should not fail because a
name has no value or because an aggregate stands where there is no group: these
are errors of the statement and not of its data.  An expression whose columns and
aggregates have values in a scope does not fail so; what it computes from these
values fails in other ways only.
-/

namespace Relational

/-- Errors about a name without a value or an aggregate out of its place. -/
def Error.isUnresolved : Error → Bool
  | .columnNotFound _ _ => true
  | .invalidQuery (.aggregateNotAllowedHere _) => true
  | _ => false

/-- A computation does not fail for a name or an aggregate out of place. -/
def Resolves {α : Type} (computed : Except Error α) : Prop :=
  ∀ error, computed = .error error → error.isUnresolved = false

namespace Resolves

variable {α β : Type} {first : Except Error α} {next : α → Except Error β}

theorem ok (value : α) : Resolves (.ok value) :=
  FailsOnly.ok value

theorem pure (value : α) : Resolves (Pure.pure value) :=
  FailsOnly.pure value

theorem error {error : Error} (other : error.isUnresolved = false) :
    Resolves (.error error : Except Error α) :=
  FailsOnly.error other

theorem bind (resolves : Resolves first)
    (continues : ∀ value, first = .ok value → Resolves (next value)) :
    Resolves (first >>= next) :=
  FailsOnly.bind resolves continues

theorem mapM {compute : α → Except Error β} {items : List α}
    (each : ∀ item ∈ items, Resolves (compute item)) : Resolves (items.mapM compute) :=
  FailsOnly.mapM each

end Resolves

theorem Error.isUnresolved_of_isOfValues (error : Error) (own : error.isOfValues) :
    error.isUnresolved = false := by
  unfold isOfValues at own
  split at own <;> first | rfl | cases own

theorem Error.isUnresolved_of_isOfForm (error : Error) (form : error.isOfForm) :
    error.isUnresolved = false := by
  unfold isOfForm at form
  split at form <;> first | rfl | cases form

namespace Expr

variable {scope : Scope} {expression : Expr}

/-- Every column and every aggregate of an expression has a value in a scope, or
fails for another reason.  What stands inside an aggregate is a matter of its rows. -/
inductive ResolvedIn (scope : Scope) : Expr → Prop where
  | column {name : String} (known : Resolves (scope.column name)) :
      ResolvedIn scope (.column name)
  | aggregate {function : AggregateFunction} {argument : Option Expr} {distinct : Bool}
      (known : Resolves (scope.aggregate (.aggregate function argument distinct))) :
      ResolvedIn scope (.aggregate function argument distinct)
  | compound {expression : Expr} (no_column : ∀ name, expression ≠ .column name)
      (no_aggregate : expression.isAggregate = false)
      (parts : ∀ part ∈ expression.parts, ResolvedIn scope part.2) : ResolvedIn scope expression

/-- What is resolved in a scope looks up there what it needs. -/
theorem ResolvedIn.looksUp (resolved : expression.ResolvedIn scope) :
    expression.LooksUp (fun error => error.isUnresolved = false) scope := by
  induction resolved with
  | column known => exact .column known
  | aggregate known => exact .aggregate known
  | compound no_column no_aggregate _ ih =>
      exact .of_parts no_column no_aggregate
        (fun fault found => fault.isUnresolved_of_isOfForm (isOfForm_of_formFault? found)) ih

theorem evaluate_resolves (resolved : expression.ResolvedIn scope) :
    Resolves (expression.evaluate scope) :=
  evaluate_failsOnly Error.isUnresolved_of_isOfValues resolved.looksUp

theorem isMet_resolves (resolved : expression.ResolvedIn scope) :
    Resolves (expression.isMet scope) :=
  isMet_failsOnly Error.isUnresolved_of_isOfValues resolved.looksUp

/-! ### What the checks of a statement settle -/

variable {grouped labels : List String} {schema : Schema}

theorem resolvedIn_literal (value : Value) : (literal value).ResolvedIn scope :=
  .compound nofun rfl nofun

/-- An expression other than a column or an aggregate is resolved exactly if its parts
are. -/
theorem resolvedIn_iff_parts (no_column : ∀ name, expression ≠ .column name)
    (no_aggregate : expression.isAggregate = false) :
    expression.ResolvedIn scope ↔ ∀ part ∈ expression.parts, part.2.ResolvedIn scope := by
  refine ⟨fun resolved => ?_, .compound no_column no_aggregate⟩
  cases resolved with
  | column known => exact absurd rfl (no_column _)
  | aggregate known => cases no_aggregate
  | compound _ _ parts => exact parts

/-- No column is unknown exactly if all are those of the schema or labels. -/
theorem unknownColumn?_eq_none_iff : expression.unknownColumn? schema labels = none ↔
    ∀ name, column name ∈ expression.nodes →
      (schema.position? name).isSome ∨ name ∈ labels := by
  rw [unknownColumn?, List.findSome?_eq_none_iff]
  constructor
  · intro each name member
    have known := each _ member
    simp only [ite_eq_right_iff, reduceCtorEq, imp_false, Bool.and_eq_true, not_and,
      Option.isNone_iff_eq_none, decide_eq_true_eq, not_not] at known
    rw [Option.isSome_iff_ne_none]
    exact or_iff_not_imp_left.mpr fun absent => known (not_not.mp absent)
  · intro each node member
    cases node with
    | column name =>
        simp only [ite_eq_right_iff, reduceCtorEq, imp_false, Bool.and_eq_true, not_and,
          Option.isNone_iff_eq_none, decide_eq_true_eq, not_not]
        intro absent
        exact (each name member).resolve_left (by simp [absent])
    | _ => rfl

/-- There is no ungrouped column in a list exactly if there is none in its members. -/
theorem firstUngrouped?_eq_none_iff {expressions : List Expr} :
    firstUngrouped? grouped expressions = none ↔
      ∀ expression ∈ expressions, expression.ungroupedColumn? grouped = none := by
  induction expressions with
  | nil => simp [firstUngrouped?]
  | cons expression rest ih =>
      rw [firstUngrouped?, Option.or_eq_none_iff, ih, List.forall_mem_cons]

/-- Outside of aggregates the parts of an expression mention grouped columns
only, if the expression does. -/
theorem ungroupedColumn?_of_mem_parts (free : expression.ungroupedColumn? grouped = none)
    (no_aggregate : expression.isAggregate = false) {part : Descent × Expr}
    (member : part ∈ expression.parts) : part.2.ungroupedColumn? grouped = none := by
  cases expression with
  | column name => cases member
  | literal value => cases member
  | aggregate function argument distinct => cases no_aggregate
  | call function arguments =>
      obtain ⟨argument, among, rfl⟩ := List.mem_map.mp member
      exact firstUngrouped?_eq_none_iff.mp free argument among
  | isIn operand items negated =>
      obtain ⟨first, others⟩ := Option.or_eq_none_iff.mp free
      rcases List.mem_cons.mp member with rfl | member
      · exact first
      · obtain ⟨item, among, rfl⟩ := List.mem_map.mp member
        exact firstUngrouped?_eq_none_iff.mp others item among
  | _ =>
      simp only [ungroupedColumn?, Option.or_eq_none_iff] at free
      simp only [parts, List.mem_cons, List.not_mem_nil, or_false] at member
      rcases member with rfl | rfl | rfl <;> simp only [free]

/-- Without aggregates an expression needs the values of its columns only. -/
theorem resolvedIn_of_plain (plain : expression.containsAggregate = false)
    (columns : ∀ name, column name ∈ expression.nodes → Resolves (scope.column name)) :
    expression.ResolvedIn scope := by
  have free : ∀ node ∈ expression.nodes, node.isAggregate = false := by
    simpa [containsAggregate] using plain
  clear plain
  induction expression using induction_on_parts with
  | step expression ih =>
      cases expression with
      | column name => exact .column (columns name (self_mem_nodes _))
      | aggregate function argument distinct => exact nomatch free _ (self_mem_nodes _)
      | _ =>
          refine .compound nofun rfl fun part member => ih part member ?_ ?_
          · intro name inside
            exact columns name (nodes_subset_of_mem_parts member inside)
          · intro node inside
            exact free node (nodes_subset_of_mem_parts member inside)

/-- An expression about a group needs the values of its aggregates and, outside
of these, those of grouped columns. -/
theorem resolvedIn_of_grouped (free : expression.ungroupedColumn? grouped = none)
    (columns : ∀ name ∈ grouped, Resolves (scope.column name))
    (calls : ∀ call ∈ expression.nodes, call.isAggregate = true →
      Resolves (scope.aggregate call)) : expression.ResolvedIn scope := by
  induction expression using induction_on_parts with
  | step expression ih =>
      cases expression with
      | column name =>
          rw [ungroupedColumn?] at free
          split at free
          · rename_i member
            exact .column (columns name member)
          · cases free
      | aggregate function argument distinct => exact .aggregate (calls _ (self_mem_nodes _) rfl)
      | _ =>
          refine .compound nofun rfl fun part member => ih part member ?_ ?_
          · exact ungroupedColumn?_of_mem_parts free rfl member
          · intro call inside
            exact calls call (nodes_subset_of_mem_parts member inside)

/-! ### Coerced literals -/

/-- Exchanging literals keeps an expression resolved. -/
theorem ResolvedIn.exchanged {other : Expr} (resolved : expression.ResolvedIn scope)
    (exchanged : expression.Exchanged other) : other.ResolvedIn scope := by
  cases exchanged with
  | same => exact resolved
  | literal _ value => exact resolvedIn_literal value

/-- Expressions of one form are resolved alike. -/
theorem ResolvedIn.sameForm {other : Expr} (resolved : expression.ResolvedIn scope)
    (same : expression.SameForm other) : other.ResolvedIn scope := by
  induction same with
  | exchanged exchanged => exact resolved.exchanged exchanged
  | binary op _ _ ih ih' =>
      have inner := (resolvedIn_iff_parts (by simp) rfl).mp resolved
      exact .compound (by simp) rfl (List.forall_mem_cons.mpr ⟨ih (inner _ (.head _)),
        List.forall_mem_singleton.mpr (ih' (inner _ (.tail _ (.head _))))⟩)
  | unary op _ ih =>
      have inner := (resolvedIn_iff_parts (by simp) rfl).mp resolved
      exact .compound (by simp) rfl (List.forall_mem_singleton.mpr (ih (inner _ (.head _))))
  | isIn operand negated replaced =>
      have inner := (resolvedIn_iff_parts (by simp) rfl).mp resolved
      obtain ⟨first, others⟩ := List.forall_mem_cons.mp inner
      refine .compound (by simp) rfl (List.forall_mem_cons.mpr ⟨first, ?_⟩)
      refine List.forall_mem_map.mpr fun item member => ?_
      obtain ⟨original, among, exchanged⟩ := exists_of_forall₂ replaced.flip member
      exact (List.forall_mem_map.mp others original among).exchanged exchanged
  | between operand negated first second =>
      have inner := (resolvedIn_iff_parts (by simp) rfl).mp resolved
      have lower := (inner _ (.tail _ (.head _))).exchanged first
      have upper := (inner _ (.tail _ (.tail _ (.head _)))).exchanged second
      exact .compound (by simp) rfl (List.forall_mem_cons.mpr ⟨inner _ (.head _),
        List.forall_mem_cons.mpr ⟨lower, List.forall_mem_singleton.mpr upper⟩⟩)

/-- Coercing literals leaves the columns and the aggregates of a condition in
their places. -/
theorem ResolvedIn.coerceLiterals {condition bound : Expr} (resolved : condition.ResolvedIn scope)
    (coerces : Expr.coerceLiterals schema condition = .ok bound) : bound.ResolvedIn scope :=
  resolved.sameForm (sameForm_of_coerceLiterals coerces)

end Expr

end Relational
