import Relational.Proofs.Expr.Condition
import Relational.Proofs.Value.Comparison

/-!
# Coercing literals keeps the value of a condition

Binding replaces literals beside columns by what the columns make of them.
Where the condition has a value before and after, the value is the same,
provided that every integer cell has one order with both numbers that such a
literal denotes.  The proof follows the places that binding reaches: below them
nothing changes, and above them operands that agree give results that agree.
-/

namespace Relational

/-- The columns of a scope hold what their types allow. -/
def Scope.Typed (schema : Schema) (scope : Scope) : Prop :=
  ∀ name cell declared, scope.column name = .ok cell → schema.column? name = some declared →
    cell.Fits declared.type

namespace Expr

/-- The content of a literal. -/
def literal? : Expr → Option Value
  | .literal value => some value
  | _ => none

/-- The column and the literal of a comparison between them. -/
def literalBeside : Expr → Expr → List (String × Value)
  | .column name, .literal value => [(name, value)]
  | .literal value, .column name => [(name, value)]
  | _, _ => []

/-- The literals that binding coerces, each with the column it stands beside. -/
def coercedLiterals : Expr → List (String × Value)
  | .binary .and left right => coercedLiterals left ++ coercedLiterals right
  | .binary .or left right => coercedLiterals left ++ coercedLiterals right
  | .binary op left right => if op.isComparison then literalBeside left right else []
  | .unary _ operand => coercedLiterals operand
  | .isIn (.column name) items _ => (items.filterMap literal?).map fun value => (name, value)
  | .between (.column name) low high _ =>
    ([low, high].filterMap literal?).map fun value => (name, value)
  | _ => []

/-- Where an integer cell is compared with a literal that denotes a float and an
integer, its order with both is the same. -/
def Faithful (scope : Scope) (condition : Expr) : Prop :=
  ∀ name value, (name, value) ∈ condition.coercedLiterals →
    ∀ n, scope.column name = .ok (.integer n) → Value.Faithful n value

variable {scope : Scope} {schema : Schema} {condition bound left right left' right' : Expr}
  {name : String} {cell value coerced : Value}

/-! ### Beside a column -/

/-- A cell compares with a coerced literal as with the literal, if the literal is faithful
to it. -/
theorem agree_of_coerceFor (typed : scope.Typed schema) (found : scope.column name = .ok cell)
    (faithful : ∀ n, scope.column name = .ok (.integer n) → Value.Faithful n value)
    (coerces : coerceFor schema name value = .ok coerced) :
    Agree (cell.comparison value) (cell.comparison coerced) ∧
      Agree (value.comparison cell) (coerced.comparison cell) := by
  have faithful' : ∀ n, cell = .integer n → Value.Faithful n value :=
    fun n same => faithful n (same ▸ found)
  unfold coerceFor at coerces
  split at coerces
  · rename_i declared known
    unfold Value.coerce at coerces
    split at coerces
    · rename_i converts
      cases coerces
      have fits := typed name cell declared found known
      exact ⟨Value.comparison_converted fits converts faithful',
        Value.comparison_converted_left fits converts faithful'⟩
    · cases coerces
  · cases coerces
    exact ⟨Agree.refl _, Agree.refl _⟩

/-- A comparison gives the same wherever its sides compare alike. -/
theorem operate_agree {op : BinaryOperator} {a b c d : Value} (compares : op.isComparison = true)
    (compared : Agree (a.comparison b) (c.comparison d)) :
    Agree (operate op a b) (operate op c d) := by
  cases op
  case and | or | add | subtract | multiply | divide => cases compares
  all_goals exact compared.bind fun _ _ => Agree.refl _

/-- All operators but the logical ones evaluate both sides first. -/
theorem evaluate_binary {op : BinaryOperator} (notAnd : op ≠ .and) (notOr : op ≠ .or) :
    (binary op left right).evaluate scope = (do
      let l ← left.evaluate scope
      let r ← right.evaluate scope
      operate op l r) := by
  cases op with
  | and => exact absurd rfl notAnd
  | or => exact absurd rfl notOr
  | _ => rfl

/-- A comparison between a column and a literal keeps its value when the literal is
coerced. -/
theorem comparison_agree (typed : scope.Typed schema) {op : BinaryOperator}
    (compares : op.isComparison = true) (faithful : (binary op left right).Faithful scope)
    (coerces : coerceComparison schema left right = .ok (left', right')) :
    Agree ((binary op left right).evaluate scope) ((binary op left' right').evaluate scope) := by
  have notAnd : op ≠ .and := by rintro rfl; cases compares
  have notOr : op ≠ .or := by rintro rfl; cases compares
  have literals : (binary op left right).coercedLiterals = literalBeside left right := by
    rw [coercedLiterals, if_pos compares]
    · exact notAnd
    · exact notOr
  rw [evaluate_binary notAnd notOr, evaluate_binary notAnd notOr]
  unfold Faithful at faithful
  rw [literals] at faithful
  unfold coerceComparison at coerces
  split at coerces
  · rename_i name value
    obtain ⟨coerced, converts, result⟩ := bind_eq_ok.mp coerces
    cases result
    refine (Agree.refl _).bind fun cell found => operate_agree compares ?_
    exact (agree_of_coerceFor typed found (faithful _ _ List.mem_cons_self) converts).1
  · rename_i value name
    obtain ⟨coerced, converts, result⟩ := bind_eq_ok.mp coerces
    cases result
    refine (Agree.refl ((column name).evaluate scope)).bind fun cell found => ?_
    refine operate_agree compares ?_
    exact (agree_of_coerceFor typed found (faithful _ _ List.mem_cons_self) converts).2
  · cases coerces
    exact Agree.refl _

/-- What binding makes of an operand beside a column. -/
theorem operand_agree (typed : scope.Typed schema) (found : scope.column name = .ok cell)
    {operand operand' : Expr} (faithful : ∀ value, operand.literal? = some value →
      ∀ n, scope.column name = .ok (.integer n) → Value.Faithful n value)
    (coerces : coerceOperand schema name operand = .ok operand') {value value' : Value}
    (evaluates : operand.evaluate scope = .ok value)
    (evaluates' : operand'.evaluate scope = .ok value') :
    Agree (cell.comparison value) (cell.comparison value') := by
  unfold coerceOperand at coerces
  split at coerces
  · obtain ⟨coerced, converts, result⟩ := bind_eq_ok.mp coerces
    cases result
    cases evaluates
    cases evaluates'
    exact (agree_of_coerceFor typed found (faithful _ rfl) converts).1
  · cases coerces
    cases evaluates.symm.trans evaluates'
    exact Agree.refl _

/-- Lists whose items compare alike with a value are searched alike. -/
theorem membership_agree {negated : Bool} {items items' : List Expr}
    (alike : List.Forall₂ (fun item item' => ∀ value value', evaluate scope item = .ok value →
      evaluate scope item' = .ok value' →
        Agree (cell.comparison value) (cell.comparison value')) items items')
    (unknown : Bool) : Agree (membership scope cell negated unknown items)
      (membership scope cell negated unknown items') := by
  induction alike generalizing unknown with
  | nil => exact Agree.refl _
  | cons compared _ ih =>
      rw [membership, membership]
      refine agree_bind fun value value' evaluates evaluates' => ?_
      refine (compared value value' evaluates evaluates').bind fun order _ => ?_
      split
      · exact Agree.refl _
      · exact ih unknown
      · exact ih true

/-- A membership keeps its value when its literals are coerced. -/
theorem isIn_agree (typed : scope.Typed schema) {items items' : List Expr} {negated : Bool}
    (faithful : (isIn (column name) items negated).Faithful scope)
    (coerces : items.mapM (coerceOperand schema name) = .ok items') :
    Agree ((isIn (column name) items negated).evaluate scope)
      ((isIn (column name) items' negated).evaluate scope) := by
  refine (Agree.refl _).bind fun cell found => ?_
  split
  · exact Agree.refl _
  · refine membership_agree ?_ false
    have literals : ∀ item ∈ items, ∀ value, item.literal? = some value →
        ∀ n, scope.column name = .ok (.integer n) → Value.Faithful n value := by
      intro item member value same
      exact faithful name value
        (List.mem_map_of_mem (List.mem_filterMap.mpr ⟨item, member, same⟩))
    have each := mapM_eq_ok.mp coerces
    clear coerces faithful
    induction each with
    | nil => exact .nil
    | cons coerced _ ih =>
        refine .cons (fun value value' => operand_agree typed found
          (literals _ List.mem_cons_self) coerced) (ih fun item member => ?_)
        exact literals item (List.mem_cons_of_mem _ member)

/-- A range keeps its value when its literals are coerced. -/
theorem between_agree (typed : scope.Typed schema) {low high low' high' : Expr} {negated : Bool}
    (faithful : (between (column name) low high negated).Faithful scope)
    (coerces : coerceOperand schema name low = .ok low')
    (coerces' : coerceOperand schema name high = .ok high') :
    Agree ((between (column name) low high negated).evaluate scope)
      ((between (column name) low' high' negated).evaluate scope) := by
  have literals : ∀ bound ∈ [low, high], ∀ value, bound.literal? = some value →
      ∀ n, scope.column name = .ok (.integer n) → Value.Faithful n value := by
    intro bound member value same
    exact faithful name value (List.mem_map_of_mem (List.mem_filterMap.mpr ⟨bound, member, same⟩))
  refine (Agree.refl _).bind fun cell found => ?_
  refine agree_bind fun lower lower' evaluates evaluates' => ?_
  refine agree_bind fun upper upper' evaluates_high evaluates_high' => ?_
  have fromLow := operand_agree typed found (literals low (by simp)) coerces evaluates evaluates'
  have toHigh := operand_agree typed found (literals high (by simp)) coerces' evaluates_high
    evaluates_high'
  exact fromLow.bind fun _ _ => toHigh.bind fun _ _ => Agree.refl _

/-- An operator has one result for operands that agree. -/
theorem binary_agree {op : BinaryOperator}
    (first : Agree (left.evaluate scope) (left'.evaluate scope))
    (second : Agree (right.evaluate scope) (right'.evaluate scope)) :
    Agree ((binary op left right).evaluate scope) ((binary op left' right').evaluate scope) := by
  by_cases logical : op = .and ∨ op = .or
  · rcases logical with rfl | rfl <;> refine first.bind fun value _ => ?_
    all_goals
      split
      · exact Agree.refl _
      · exact second.bind fun _ _ => Agree.refl _
  · obtain ⟨notAnd, notOr⟩ := not_or.mp logical
    rw [evaluate_binary notAnd notOr, evaluate_binary notAnd notOr]
    exact first.bind fun _ _ => second.bind fun _ _ => Agree.refl _

/-- Coercing literals keeps the value of a condition, where it has one before and
after. -/
theorem coerceLiterals_agree (typed : scope.Typed schema) (faithful : condition.Faithful scope)
    (coerces : coerceLiterals schema condition = .ok bound) :
    Agree (condition.evaluate scope) (bound.evaluate scope) := by
  have coerced := Coerced.of_coerceLiterals coerces
  clear coerces
  induction coerced with
  | logical logical _ _ ih ih' =>
      rcases logical with rfl | rfl
      all_goals
        exact binary_agree
          (ih fun name value member => faithful name value (List.mem_append_left _ member))
          (ih' fun name value member => faithful name value (List.mem_append_right _ member))
  | comparison compares converts => exact comparison_agree typed compares faithful converts
  | arithmetic | other => exact Agree.refl _
  | unary op _ ih =>
      have inner := ih faithful
      cases op <;> exact inner.bind fun _ _ => Agree.refl _
  | isIn name negated converts => exact isIn_agree typed faithful converts
  | between name negated converts converts' => exact between_agree typed faithful converts converts'

end Expr

end Relational
