import Relational.Proofs.Query.Guard
import Relational.Proofs.Statement.Insertion

/-!
# What binding is guarded against

Binding looks up declarations of columns and cells of a new row by their positions, which
were found for names in the same schema, and the new contents of a row are computed from
expressions.  So it fails neither for a position nor for the form of an expression, except
where an insertion or a change gives an expression that is not well formed.  The
expressions of a bound statement are those that it was given, with other literals.
-/

namespace Relational

variable {kind : Error → Prop} (general : Allows kind Error.isGeneral)

include general

/-- A coercion fails only with a general error. -/
theorem Value.coerce_failsOnly (value : Value) (type : ColumnType) (column : String) :
    FailsOnly kind (value.coerce type column) := by
  unfold coerce
  split
  · exact .ok _
  · exact .error (general _ rfl)

namespace Expr

/-- The check of columns fails only with a general error. -/
theorem checkColumns_failsOnly (schema : Schema) (labels : List String) (expression : Expr) :
    FailsOnly kind (expression.checkColumns schema labels) := by
  unfold checkColumns
  split
  · exact .error (general _ rfl)
  · exact .ok _

/-- The check for aggregates fails only with a general error. -/
theorem rejectAggregates_failsOnly (clause : String) (expression : Expr) :
    FailsOnly kind (expression.rejectAggregates clause) := by
  unfold rejectAggregates
  split
  · exact .error (general _ rfl)
  · exact .ok _

omit general in
/-- Checking an optional expression fails only as checking an expression does. -/
theorem checkOptional_failsOnly {check : Expr → Except Error Unit}
    (each : ∀ expression, FailsOnly kind (check expression)) (optional : Option Expr) :
    FailsOnly kind (checkOptional check optional) := by
  cases optional with
  | none => exact .ok _
  | some expression => exact each expression

/-! ### Coerced literals -/

variable (schema : Schema)

/-- Coercing a literal for a column fails only with a general error. -/
theorem coerceFor_failsOnly (name : String) (value : Value) :
    FailsOnly kind (coerceFor schema name value) := by
  unfold coerceFor
  split
  · exact value.coerce_failsOnly general _ _
  · exact .ok _

/-- Coercing an operand for a column fails only with a general error. -/
theorem coerceOperand_failsOnly (name : String) (operand : Expr) :
    FailsOnly kind (coerceOperand schema name operand) := by
  unfold coerceOperand
  split
  · exact (coerceFor_failsOnly general schema name _).bind fun _ _ => .pure _
  · exact .ok _

/-- Coercing the literals of a comparison fails only with a general error. -/
theorem coerceComparison_failsOnly (left right : Expr) :
    FailsOnly kind (coerceComparison schema left right) := by
  unfold coerceComparison
  split
  · exact (coerceFor_failsOnly general schema _ _).bind fun _ _ => .pure _
  · exact (coerceFor_failsOnly general schema _ _).bind fun _ _ => .pure _
  · exact .ok _

/-- Coercing the literals of a condition fails only with a general error. -/
theorem coerceLiterals_failsOnly (condition : Expr) :
    FailsOnly kind (coerceLiterals schema condition) := by
  induction condition using coerceLiterals.induct with
  | case1 left right ih ih' | case2 left right ih ih' =>
      exact ih.bind fun _ _ => ih'.bind fun _ _ => .pure _
  | case3 op left right notAnd notOr compares =>
      rw [coerceLiterals, if_pos compares]
      · exact (coerceComparison_failsOnly general schema left right).bind fun _ _ => .pure _
      · exact notAnd
      · exact notOr
  | case4 op left right notAnd notOr compares =>
      rw [coerceLiterals, if_neg compares]
      · exact .ok _
      · exact notAnd
      · exact notOr
  | case5 op operand ih => exact ih.bind fun _ _ => .pure _
  | case6 name items negated =>
      exact (FailsOnly.mapM fun item _ => coerceOperand_failsOnly general schema name item).bind
        fun _ _ => .pure _
  | case7 name low high negated =>
      exact (coerceOperand_failsOnly general schema name low).bind fun _ _ =>
        (coerceOperand_failsOnly general schema name high).bind fun _ _ => .pure _
  | case8 condition notAnd notOr notBinary notUnary notIn notBetween =>
      have unchanged : coerceLiterals schema condition = .ok condition := by
        rw [coerceLiterals] <;> assumption
      rw [unchanged]
      exact .ok _

/-- Coercing an optional condition fails only with a general error. -/
theorem coerceCondition_failsOnly (condition : Option Expr) :
    FailsOnly kind (coerceCondition schema condition) := by
  cases condition with
  | none => exact .ok _
  | some expression =>
      exact (coerceLiterals_failsOnly general schema expression).bind fun _ _ => .pure _

/-- Binding a condition fails only with a general error. -/
theorem bindCondition_failsOnly (condition : Option Expr) :
    FailsOnly kind (bindCondition schema condition) :=
  (checkOptional_failsOnly (checkColumns_failsOnly general schema []) condition).bind fun _ _ =>
    (checkOptional_failsOnly (rejectAggregates_failsOnly general "WHERE") condition).bind
      fun _ _ => coerceCondition_failsOnly general schema condition

omit general in
/-- Binding leaves a condition well formed. -/
theorem WellFormed.bindCondition {condition bound : Option Expr}
    (formed : ∀ expression ∈ condition, expression.WellFormed)
    (binds : Expr.bindCondition schema condition = .ok bound) :
    ∀ expression ∈ bound, expression.WellFormed := by
  obtain ⟨_, -, binds⟩ := bind_eq_ok.mp binds
  obtain ⟨_, -, coerces⟩ := bind_eq_ok.mp binds
  exact WellFormed.coerceCondition formed coerces

end Expr

/-! ### Queries -/

namespace Select

variable (schema : Schema) (query : Select)

/-- The check of the columns of a query fails only with a general error. -/
theorem checkColumns_failsOnly : FailsOnly kind (query.checkColumns schema) := by
  have known : ∀ (labels : List String) (expression : Expr),
      FailsOnly kind (expression.checkColumns schema labels) :=
    Expr.checkColumns_failsOnly general schema
  refine (FailsOnly.forM fun _ _ => known [] _).bind fun _ _ => ?_
  refine (Expr.checkOptional_failsOnly (known []) _).bind fun _ _ => ?_
  refine (FailsOnly.forM fun column _ => ?_).bind fun _ _ => ?_
  · exact (schema.position_failsOnly general column).bind fun _ _ => .pure _
  refine (Expr.checkOptional_failsOnly (known _) _).bind fun _ _ => ?_
  refine FailsOnly.forM fun item _ => ?_
  split
  · exact .ok _
  · exact (schema.position_failsOnly general item.column).bind fun _ _ => .pure _

/-- The check of a select item against the grouping fails only with a general error. -/
theorem checkGroupedItem_failsOnly (grouped : List String) (item : SelectItem) :
    FailsOnly kind (checkGroupedItem grouped item) := by
  unfold checkGroupedItem
  split
  · exact .error (general _ rfl)
  · split
    · exact .error (general _ rfl)
    · exact .ok _

/-- The check of the grouping of a query fails only with a general error. -/
theorem checkGrouping_failsOnly : FailsOnly kind query.checkGrouping := by
  refine (Expr.checkOptional_failsOnly (Expr.rejectAggregates_failsOnly general "WHERE") _).bind
    fun _ _ => ?_
  split
  · exact FailsOnly.forM fun item _ => checkGroupedItem_failsOnly general _ item
  · split
    · exact FailsOnly.forM fun item _ => checkGroupedItem_failsOnly general _ item
    · split
      · exact .error (general _ rfl)
      · exact .ok _

/-- Binding a query fails only with a general error. -/
theorem bind_failsOnly : FailsOnly kind (query.bind schema) :=
  (checkColumns_failsOnly general schema query).bind fun _ _ =>
    (checkGrouping_failsOnly general query).bind fun _ _ =>
      (Expr.coerceCondition_failsOnly general schema query.condition).bind fun _ _ => .pure _

omit general in
/-- Binding leaves a query well formed. -/
theorem WellFormed.bind {schema : Schema} {query bound : Select} (formed : query.WellFormed)
    (binds : query.bind schema = .ok bound) : bound.WellFormed := by
  obtain ⟨-, -, condition, coerces, rfl⟩ := condition_of_bind binds
  exact ⟨formed.shown, Expr.WellFormed.coerceCondition formed.condition coerces, formed.having⟩

end Select

/-! ### Changes of rows -/

omit general in
/-- A cell is replaced at a position inside of the row. -/
theorem Row.withCell_failsOnly {row : Row} {position : Nat}
    (places : Allows kind Error.isOutOfRange ∨ position < row.length) (value : Value) :
    FailsOnly kind (Row.withCell row position value) := by
  unfold withCell
  split
  · exact .ok _
  · rename_i outside
    exact .error (places.resolve_right outside _ rfl)

namespace Update

variable {schema : Schema}

/-- Contents are assigned to the columns of a row at their positions. -/
theorem assign_failsOnly {scope : Scope} (answers : scope.Answers kind)
    {targets : List (Nat × Expr)}
    (form : Allows kind Error.isOfForm ∨ ∀ target ∈ targets, target.2.WellFormed)
    (within : ∀ target ∈ targets, target.1 < schema.columns.length) {row : Row}
    (width : Allows kind Error.isOutOfRange ∨ row.length = schema.columns.length) :
    FailsOnly kind (assign scope schema targets row) := by
  induction targets generalizing row with
  | nil => exact .ok _
  | cons target rest ih =>
      obtain ⟨position, content⟩ := target
      obtain ⟨head, tail⟩ := List.forall_mem_cons.mp within
      refine (Schema.columnAt_failsOnly (.inr head)).bind fun column _ => ?_
      refine (answers.evaluate general (form.imp_right fun formed =>
        formed _ List.mem_cons_self)).bind fun value _ => ?_
      refine (value.coerce_failsOnly general _ _).bind fun cell _ => ?_
      refine (Row.withCell_failsOnly (width.imp_right fun width =>
        head.trans_eq width.symm) cell).bind fun changed replaced => ?_
      obtain ⟨-, rfl⟩ := Row.withCell_eq_ok_iff.mp replaced
      refine ih (form.imp_right fun formed target member => ?_) tail
        (width.imp_right List.length_set.trans)
      exact formed target (List.mem_cons_of_mem _ member)

theorem assignedPosition_failsOnly (schema : Schema) (assignment : String × Expr) :
    FailsOnly kind (assignedPosition schema assignment) :=
  (schema.position_failsOnly general assignment.1).bind fun _ _ =>
    (Expr.checkColumns_failsOnly general schema [] assignment.2).bind fun _ _ => .pure _

/-- The check of the targets of assignments fails only with a general error. -/
theorem checkTargets_failsOnly (seen columns : List String) :
    FailsOnly kind (checkTargets schema seen columns) := by
  induction columns generalizing seen with
  | nil => exact .ok _
  | cons column rest ih =>
      rw [checkTargets]
      split
      · exact .error (general _ rfl)
      · split
        · exact .error (general _ rfl)
        · exact ih _

/-- An assignment to a column of the schema is bound, or refused with a general error. -/
theorem bindAssignment_failsOnly {position : Nat} (inside : position < schema.columns.length)
    (content : Expr) : FailsOnly kind (bindAssignment schema position content) := by
  refine (Expr.rejectAggregates_failsOnly general "SET" content).bind fun _ _ =>
    (Schema.columnAt_failsOnly (.inr inside)).bind fun column _ => ?_
  split
  · exact (Value.coerce_failsOnly general _ _ _).bind fun _ _ => .pure _
  · exact .pure _

/-- Binding an update fails only with a general error. -/
theorem bind_failsOnly (schema : Schema) (change : Update) :
    FailsOnly kind (change.bind schema) := by
  refine (FailsOnly.mapM fun assignment _ =>
    assignedPosition_failsOnly general schema assignment).bind fun positions located => ?_
  refine (Expr.checkOptional_failsOnly (Expr.checkColumns_failsOnly general schema []) _).bind
    fun _ _ => ?_
  refine (checkTargets_failsOnly general [] _).bind fun _ _ => ?_
  refine (Expr.checkOptional_failsOnly (Expr.rejectAggregates_failsOnly general "WHERE") _).bind
    fun _ _ => ?_
  refine (FailsOnly.mapM fun target member => ?_).bind fun _ _ =>
    (Expr.coerceCondition_failsOnly general schema _).bind fun _ _ => .pure _
  obtain ⟨assignment, -, found⟩ := exists_of_mem_mapM located (List.of_mem_zip member).1
  obtain ⟨position, stands, result⟩ := bind_eq_ok.mp found
  obtain ⟨_, -, result⟩ := bind_eq_ok.mp result
  cases result
  exact bindAssignment_failsOnly general (Schema.position_lt stands) _

omit general in
/-- The content of a bound assignment is the one that was given, or a literal. -/
theorem exchanged_of_bindAssignment {position : Nat} {content : Expr} {target : Nat × Expr}
    (binds : bindAssignment schema position content = .ok target) :
    content.Exchanged target.2 := by
  obtain ⟨_, -, binds⟩ := bind_eq_ok.mp binds
  obtain ⟨column, -, binds⟩ := bind_eq_ok.mp binds
  split at binds
  · obtain ⟨coerced, -, result⟩ := bind_eq_ok.mp binds
    cases result
    exact .literal _ coerced
  · cases binds
    exact .same content

omit general in
/-- Binding leaves the contents and the condition of an update well formed. -/
theorem wellFormed_of_bind {change : Update} {bound : BoundUpdate}
    (contents : ∀ assignment ∈ change.assignments, assignment.2.WellFormed)
    (formed : ∀ expression ∈ change.condition, expression.WellFormed)
    (binds : change.bind schema = .ok bound) :
    (∀ target ∈ bound.assignments, target.2.WellFormed) ∧
      ∀ expression ∈ bound.condition, expression.WellFormed := by
  obtain ⟨positions, -, binds⟩ := bind_eq_ok.mp binds
  obtain ⟨_, -, binds⟩ := bind_eq_ok.mp binds
  obtain ⟨_, -, binds⟩ := bind_eq_ok.mp binds
  obtain ⟨_, -, binds⟩ := bind_eq_ok.mp binds
  obtain ⟨assignments, assigned, binds⟩ := bind_eq_ok.mp binds
  obtain ⟨condition, coerces, result⟩ := bind_eq_ok.mp binds
  cases result
  refine ⟨fun target member => ?_, Expr.WellFormed.coerceCondition formed coerces⟩
  obtain ⟨given, among, bound⟩ := exists_of_mem_mapM assigned member
  obtain ⟨assignment, inside, same⟩ := List.mem_map.mp (List.of_mem_zip among).2
  exact (same ▸ contents assignment inside).exchanged (exchanged_of_bindAssignment bound)

end Update

namespace Insert

variable {now : DateTime} {schema : Schema} {insertion : Insert}

/-- Binding the well-formed values of an insertion to a valid schema fails only with a
general error. -/
theorem bind_failsOnly
    (form : Allows kind Error.isOfForm ∨ ∀ content ∈ insertion.values, content.WellFormed)
    (places : Allows kind Error.isOutOfRange ∨ schema.Valid) :
    FailsOnly kind (insertion.bind now schema) := by
  refine (FailsOnly.mapM fun column _ => schema.position_failsOnly general column).bind
    fun positions located => ?_
  have within : ∀ target ∈ positions.zip insertion.values,
      target.1 < schema.columns.length := by
    intro target member
    obtain ⟨column, -, found⟩ := exists_of_mem_mapM located (List.of_mem_zip member).1
    exact Schema.position_lt found
  have contents : Allows kind Error.isOfForm ∨
      ∀ target ∈ positions.zip insertion.values, target.2.WellFormed :=
    form.imp_right fun formed target member => formed _ (List.of_mem_zip member).2
  split
  · exact .error (general _ rfl)
  split
  · exact .error (general _ rfl)
  split
  · exact .error (general _ rfl)
  refine FailsOnly.bind ?_ fun row fills => ?_
  · rw [fill_eq_assign]
    exact Update.assign_failsOnly general (Scope.empty_answers general now schema.name) contents
      within (.inr List.length_replicate)
  have typed := Update.assign_typed (Row.typed_blank _) (fill_eq_assign.symm.trans fills)
  refine (Row.cell_failsOnly (places.imp_right fun valid =>
    valid.keyPosition_lt.trans_eq typed.width.symm)).bind fun key _ => ?_
  split
  · exact .error (general _ rfl)
  · exact .pure _

end Insert

end Relational
