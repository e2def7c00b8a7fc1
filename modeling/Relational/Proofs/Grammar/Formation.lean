import Relational.Proofs.Grammar
import Relational.Proofs.Grammar.Spelling

/-!
# What expressions are formed of

The grammar forms an expression from expressions one level deeper and, on the left of an
operator and in the amount of an interval, from expressions on the same level.  A family
of properties, one for each level, that every rule of formation keeps therefore holds of
whatever the grammar recognizes.  The rules that go through all expressions of a statement
are stated here once; what is proved about nesting and about form are two such families.
-/

namespace Relational

open Grammar.Parser

namespace Grammar

variable {α : Type}

/-! ### The rules of formation -/

variable {deeper level : Expr → Prop}

/-- An argument at a position of a function: any expression, or where a date subtraction
has its second argument an interval, whose amount stays on the level of the whole. -/
inductive ArgumentAt (deeper level : Expr → Prop) : ScalarFunction → Nat → Expr → Prop where
  | plain {function : ScalarFunction} {position : Nat} {argument : Expr}
      (holds : deeper argument) : ArgumentAt deeper level function position argument
  | interval {amount : Expr} (unit : IntervalUnit) (holds : level amount) :
      ArgumentAt deeper level .dateSub 1 (.interval amount unit)

/-- The rules by which an expression is formed on a level keep two properties, that of
the expressions on the level and that of the deeper ones. -/
structure Formation (deeper level : Expr → Prop) : Prop where
  enclosed : ∀ {expression}, deeper expression → level expression
  column : ∀ name, level (.column name)
  literal : ∀ value, level (.literal value)
  binary : ∀ op {left right}, level left → deeper right → level (.binary op left right)
  unary : ∀ op {operand}, deeper operand → level (.unary op operand)
  rowCount : level (.aggregate .count none false)
  aggregate : ∀ function distinct {argument}, deeper argument →
    level (.aggregate function (some argument) distinct)
  call : ∀ {function : ScalarFunction} {arguments : List Expr},
    arguments.length = function.arity →
    (∀ position argument, arguments[position]? = some argument →
      ArgumentAt deeper level function position argument) → level (.call function arguments)
  isIn : ∀ negated {operand items}, level operand → items ≠ [] → (∀ item ∈ items, deeper item) →
    level (.isIn operand items negated)
  between : ∀ negated {operand low high}, level operand → deeper low → deeper high →
    level (.between operand low high negated)
  like : ∀ negated {operand pattern}, level operand → deeper pattern →
    level (.like operand pattern negated)
  isNull : ∀ negated {operand}, level operand → level (.isNull operand negated)

namespace Formation

variable {expression : Nat → Parser Expr} {operand : Parser Expr} {left : Expr}
variable (formation : Formation deeper level)
variable (below : ∀ least, (expression least).Yields deeper)

include formation below

/-- A predicate has the property of the level on which its left side has it. -/
theorem predicate_yields (holds : level left) : (predicate expression left).Yields level := by
  refine .after fun named => ?_
  split
  · exact .after fun negated => .after fun _ => .pure (formation.isNull negated holds)
  · refine .after fun negated => .after fun among => ?_
    split
    · exact .after fun _ => (list_yields (below 1)).bind fun items hold =>
        .after fun _ => .pure (formation.isIn negated holds hold.1 hold.2)
    · refine .after fun alike => ?_
      split
      · exact (below _).bind fun pattern shape => .pure (formation.like negated holds shape)
      · refine .after fun ranged => ?_
        split
        · exact (below _).bind fun low first => .after fun _ =>
            (below _).bind fun high second => .pure (formation.between negated holds first second)
        · exact refuse_yields _ _

/-- An expression with operators has the property of the level of its left side. -/
theorem operators_yields (least steps : Nat) (holds : level left) :
    (operators expression least steps left).Yields level := by
  induction steps generalizing left with
  | zero => exact refuse_yields _ _
  | succ steps ih =>
      refine .after ?_
      rintro ⟨first, second⟩
      dsimp only
      split
      · split
        · exact .pure holds
        · exact (formation.predicate_yields below holds).bind fun predicated formed => ih formed
      · split
        · exact .pure holds
        · rename_i op _
          split
          · exact .pure holds
          · exact .after fun _ => (below _).bind fun right inner =>
              ih (formation.binary op holds inner)

/-- An aggregate has the property of the level. -/
theorem aggregateCall_yields (function : AggregateFunction) :
    (aggregateCall expression function).Yields level := by
  refine .after fun _ => .after fun _ => ?_
  -- Only a count of rows accepts the star.
  refine (acceptIf_yields _ _).bind fun countsRows counts => ?_
  split
  · rename_i accepted
    cases of_decide_eq_true (counts accepted)
    exact .after fun _ => .pure formation.rowCount
  · exact .after fun distinct => (below 1).bind fun argument inner =>
      .after fun _ => .pure (formation.aggregate function distinct inner)

omit formation in
/-- An argument of a call is an expression of the deeper level, or an interval where one may
stand. -/
theorem argument_yields (same : operand.Yields level) (function : ScalarFunction) (position : Nat) :
    (argument expression operand function position).Yields
      (ArgumentAt deeper level function position) := by
  refine (acceptIf_yields _ _).bind fun isInterval placed => ?_
  split
  · rename_i accepted
    obtain ⟨rfl, rfl⟩ := of_decide_eq_true (placed accepted)
    refine same.bind fun amount holds => .after ?_
    rintro ⟨first, second⟩
    split
    · split
      · exact .after fun _ => .pure (.interval _ holds)
      · exact refuse_yields _ _
    · exact refuse_yields _ _
  · exact (below 1).mono fun argument holds => .plain holds

/-- A call has the property of the level. -/
theorem functionCall_yields (same : operand.Yields level) (name : String) :
    (functionCall expression operand name).Yields level := by
  unfold functionCall
  split
  · exact refuse_yields _ _
  · rename_i function known
    have listed : (argumentList expression operand function).Yields fun arguments =>
        ∀ position argument, arguments[position]? = some argument →
          ArgumentAt deeper level function position argument := by
      intro tokens arguments rest recognized
      unfold argumentList at recognized
      split at recognized
      · cases recognized
        nofun
      · have hold := listFrom_yields (argument_yields below same function) _ 0 _ _ _ recognized
        intro position argument found
        rw [← Nat.zero_add position]
        exact hold.2 position argument found
    refine .after fun _ => .after fun _ => listed.bind fun arguments holds => ?_
    split
    · exact refuse_yields _ _
    · split
      · exact refuse_yields _ _
      · exact .after fun _ => .pure (formation.call (by omega) holds)

omit below in
theorem name_yields : (name >>= fun s => Pure.pure (Expr.column s)).Yields level :=
  .after fun s => .pure (formation.column s)

/-- A keyword names an aggregate function in front of a parenthesis, else a column. -/
theorem called_yields (word : Keyword) (second : Terminal) :
    Parser.Yields
      (match aggregateFunction? word, second with
        | some function, .symbol .leftParen => aggregateCall expression function
        | _, _ => name >>= fun s => Pure.pure (Expr.column s)) level := by
  split
  · exact formation.aggregateCall_yields below _
  · exact formation.name_yields

end Formation

namespace Formation

variable {steps depth : Nat} (formation : Formation deeper level)

include formation

theorem literal_yields {first : Parser α} (value : Value) :
    (first >>= fun _ => Pure.pure (Expr.literal value)).Yields level :=
  .after fun _ => .pure (formation.literal value)

/-- A changed sign has the property of the level, if the limit allows one. -/
theorem minus_yields
    (negated : depth < maxNesting → (operandAt steps (depth + 1)).Yields deeper) :
    Parser.Yields
      (if maxNesting ≤ depth then Parser.refuse .expression
        else operandAt steps (depth + 1) >>= fun operand => Pure.pure (Expr.unary .minus operand))
      level := by
  split
  · exact refuse_yields _ _
  · exact (negated (by omega)).bind fun operand holds => .pure (formation.unary .minus holds)

/-- An operand has the property of its level if what is below has the deeper one. -/
theorem operandAt_yields (below : ∀ least, (expressionAt steps depth least).Yields deeper)
    (same : (operandAt steps depth).Yields level)
    (negated : depth < maxNesting → (operandAt steps (depth + 1)).Yields deeper) :
    (operandAt (steps + 1) depth).Yields level := by
  refine .after ?_
  rintro ⟨first, second⟩
  cases first with
  | integer | float | text => exact formation.literal_yields _
  | keyword word =>
      have called := formation.called_yields below word second
      cases word with
      | trueLiteral | falseLiteral | null => exact formation.literal_yields _
      | not =>
          exact .after fun _ => (below _).bind fun operand holds =>
            .pure (formation.unary .not holds)
      | _ => exact called
  | symbol mark =>
      cases mark with
      | minus =>
          refine .after fun _ => ?_
          cases second with
          | integer | float => exact formation.literal_yields _
          | _ => exact formation.minus_yields negated
      | leftParen =>
          exact .after fun _ => (below 1).bind fun value holds =>
            .after fun _ => .pure (formation.enclosed holds)
      | _ => exact formation.name_yields
  | name s =>
      change Parser.Yields (if second = .symbol .leftParen then _ else _) _
      split
      · exact formation.functionCall_yields below same _
      · exact formation.name_yields
  | _ => exact formation.name_yields

end Formation

/-- What is recognized some levels below the outermost one has the property of its level:
an expression that of the next one, which an operand in it stands on. -/
theorem expressionAt_yields {property : Nat → Expr → Prop}
    (formation : ∀ depth ≤ maxNesting, Formation (property (depth + 1)) (property depth))
    (steps depth : Nat) :
    (∀ least, (expressionAt steps depth least).Yields (property (depth + 1))) ∧
      (depth ≤ maxNesting → (operandAt steps depth).Yields (property depth)) := by
  induction steps generalizing depth with
  | zero => exact ⟨fun _ => refuse_yields _ _, fun _ => refuse_yields _ _⟩
  | succ steps ih =>
      constructor
      · intro least
        rw [expressionAt]
        split
        · exact refuse_yields _ _
        · rename_i room
          have within : depth + 1 ≤ maxNesting := by omega
          refine ((ih (depth + 1)).2 within).bind fun left holds => ?_
          intro tokens
          exact (formation _ within).operators_yields (ih (depth + 1)).1 least _ holds tokens
      · intro within
        exact (formation depth within).operandAt_yields (ih depth).1 ((ih depth).2 within)
          fun room => (ih (depth + 1)).2 room

/-- Whatever the rules of formation keep from level to level holds of all expressions that
are read. -/
theorem expression_yields_of (property : Nat → Expr → Prop)
    (formation : ∀ depth ≤ maxNesting, Formation (property (depth + 1)) (property depth)) :
    expression.Yields (property 1) :=
  fun tokens => (expressionAt_yields formation _ 0).1 1 tokens

/-! ### Statements -/

/-- A natural number that is read is within 64 bits with a sign. -/
theorem natural_yields : natural.Yields (· < 2 ^ 63) := by
  refine .after ?_
  rintro ⟨first, -⟩
  cases first with
  | integer n =>
      change Parser.Yields (if 0 ≤ n then _ else _) _
      split
      · refine .after fun _ => .pure ?_
        have below := n.toInt_lt
        omega
      · exact refuse_yields _ _
  | _ => exact refuse_yields _ _

/-- A statement of the form that the grammar asks for, with a property of all its
expressions. -/
structure FormedOf (property : Expr → Prop) (statement : Statement) : Prop where
  formed : statement.Formed
  expressions : ∀ value ∈ statement.expressions, property value

section

variable {property : Expr → Prop} (yields : expression.Yields property)

include yields

/-- The expression of an item of a query has the property. -/
theorem selectItem_yields :
    selectItem.Yields fun item => ∀ value ∈ item.expression?, property value := by
  refine .after fun star => ?_
  split
  · exact .pure nofun
  · refine yields.bind fun value holds => .after fun chosen => .pure ?_
    intro other same
    cases same
    exact holds

/-- The expressions of a query have the property. -/
theorem select_yields : select.Yields fun query => FormedOf property (.select query) := by
  have listed : ∀ {α : Type} {item : Parser α},
      (expectKeyword .«by» >>= fun _ => list item).Yields (· ≠ []) :=
    .after fun _ => (list_yields (.of_forall fun _ => trivial)).mono fun _ hold => hold.1
  refine .after fun _ => (list_yields (selectItem_yields yields)).bind fun items hold =>
    .after fun _ => .after fun table => (optional_yields yields).bind fun filter hold' =>
    (optional_yields listed).bind fun groupBy grouped => (optional_yields yields).bind
    fun having hold'' => (optional_yields listed).bind fun orderBy sorted =>
    (optional_yields natural_yields).bind fun limit fits =>
    (optional_yields natural_yields).bind fun offset fits' => .pure ?_
  refine ⟨⟨hold.1, fun none => grouped [] none rfl, fun none => sorted [] none rfl, fits, fits'⟩,
    ?_⟩
  intro value member
  rcases List.mem_append.mp member with member | member
  · rcases List.mem_append.mp member with member | member
    · obtain ⟨item, among, found⟩ := List.mem_filterMap.mp member
      exact hold.2 item among value found
    · exact hold' value (Option.mem_toList.mp member)
  · exact hold'' value (Option.mem_toList.mp member)

/-- The expressions of an insertion have the property. -/
theorem insert_yields : insert.Yields fun insertion => FormedOf property (.insert insertion) :=
  .after fun _ => .after fun _ => .after fun _ => .after fun _ =>
    (list_yields (.of_forall fun _ => trivial)).bind fun _ named =>
    .after fun _ => .after fun _ => .after fun _ => (list_yields yields).bind fun _ hold =>
    .after fun _ => .pure ⟨⟨named.1, hold.1⟩, hold.2⟩

/-- The expressions of an update have the property. -/
theorem update_yields : update.Yields fun change => FormedOf property (.update change) := by
  have assigned : assignment.Yields fun target => property target.2 :=
    .after fun _ => .after fun _ => yields.bind fun value holds => .pure holds
  refine .after fun _ => .after fun table => .after fun _ => (list_yields assigned).bind
    fun assignments hold => (optional_yields yields).bind fun filter hold' => .pure ⟨hold.1, ?_⟩
  intro value member
  rcases List.mem_append.mp member with member | member
  · obtain ⟨target, among, rfl⟩ := List.mem_map.mp member
    exact hold.2 target among
  · exact hold' value (Option.mem_toList.mp member)

theorem delete_yields : delete.Yields fun removal => FormedOf property (.delete removal) := by
  refine .after fun _ => .after fun _ => .after fun table =>
    (optional_yields yields).bind fun filter hold => .pure ⟨trivial, ?_⟩
  exact fun value member => hold value (Option.mem_toList.mp member)

/-- A statement has the form that the grammar asks for, and its expressions have the
property that all recognized expressions have. -/
theorem onlyStatement_formedOf : onlyStatement.Yields (FormedOf property) :=
  onlyStatement_yields_of (select_yields yields) (insert_yields yields) (update_yields yields)
    (delete_yields yields) (createTable_yields.mono fun _ created => ⟨created, nofun⟩)
    (fun _ => ⟨trivial, nofun⟩) (fun _ => ⟨trivial, nofun⟩) ⟨trivial, nofun⟩

end

end Grammar

end Relational
