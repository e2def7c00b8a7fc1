import Relational.Grammar.Expression
import Relational.Proofs.Binary64
import Relational.Proofs.Grammar.Spelling

/-!
# Reading expressions

The parser of expressions reads the canonical spelling of every expression that
the grammar can form, as long as the limit on nesting leaves two levels for each
node on the longest path.  The argument follows the parser: operands first, then
the operators and predicates behind them.  What follows an expression must not
prolong it, so every lemma says where its parser stops.
-/

namespace Relational

open Grammar Grammar.Parser

namespace Expr

variable {expression inner : Expr} {part : Descent × Expr}

namespace Expressible

/-- What an expressible expression has inside is expressible, unless it is an interval. -/
theorem inside (expressible : expression.Expressible) (within : inner.nodes ⊆ expression.nodes)
    (plain : inner.isInterval = false) : inner.Expressible where
  not_interval := plain
  formed node member := expressible.formed node (within member)
  intervals node member := expressible.intervals node (within member)

theorem of_mem_parts (expressible : expression.Expressible) (member : part ∈ expression.parts)
    (plain : part.2.isInterval = false) : part.2.Expressible :=
  expressible.inside (nodes_subset_of_mem_parts member) plain

end Expressible

/-- The amount of an interval in an expressible expression is expressible. -/
theorem Expressible.amount {amount : Expr} {unit : IntervalUnit} {descent : Descent}
    (expressible : expression.Expressible)
    (member : (descent, interval amount unit) ∈ expression.parts) : amount.Expressible := by
  have inside := nodes_subset_of_mem_parts member
  refine expressible.inside (fun node among => inside (List.mem_cons_of_mem _ among)) ?_
  have places := expressible.intervals _ (inside (self_mem_nodes _))
  exact places (.level, amount) (List.mem_singleton.mpr rfl)

theorem height_interval (amount : Expr) (unit : IntervalUnit) :
    (interval amount unit).height = amount.height + 1 := by
  rw [height_eq]
  simp [parts, greatest]

/-- A part that is no interval is written in parentheses. -/
theorem partTerminals_eq (plain : expression.isInterval = false) :
    expression.partTerminals = enclosed expression.terminals := by
  rw [partTerminals, enclose, plain]
  rfl

end Expr

namespace Grammar

/-- A terminal at which the operators that bind at least as tightly as `least`
have ended. -/
structure Stops (least : Nat) (terminal : Terminal) : Prop where
  predicate : ∀ second, startsPredicate terminal second → comparisonPrecedence < least
  operator : ∀ op, binaryOperator? terminal = some op → op.precedence < least

variable {least lower steps depth : Nat} {left value : Expr} {spelling after : List Terminal}
  {expression : Nat → Parser Expr} {terminal : Terminal}

theorem Stops.mono (stops : Stops lower terminal) (le : lower ≤ least) : Stops least terminal where
  predicate second starts := (stops.predicate second starts).trans_le le
  operator op denoted := (stops.operator op denoted).trans_le le

/-- A terminal that starts no predicate and is no operator stops. -/
theorem stops_of_none (predicate : ∀ second, startsPredicate terminal second = false)
    (operator : binaryOperator? terminal = none) : Stops least terminal where
  predicate second starts := by
    rw [predicate second] at starts
    cases starts
  operator op denoted := by
    rw [operator] at denoted
    cases denoted

/-! ### Operators and predicates -/

/-- Where a terminal stops, nothing more is read. -/
theorem operators_stop (stops : Stops least (ahead after)) :
    (operators expression least (steps + 1) left).Reads [] left after := by
  apply Reads.look
  dsimp only [List.nil_append]
  by_cases starts : startsPredicate (ahead after) (ahead after.tail)
  · rw [if_pos starts, if_pos (stops.predicate _ starts)]
    exact .pure left after
  · rw [if_neg starts]
    split
    · exact .pure left after
    · rename_i op denoted
      rw [if_pos (stops.operator op denoted)]
      exact .pure left after

theorem binaryOperator?_terminal (op : BinaryOperator) : binaryOperator? op.terminal = some op := by
  cases op <;> rfl

theorem startsPredicate_terminal (op : BinaryOperator) (second : Terminal) :
    startsPredicate op.terminal second = false := by
  cases op <;> rfl

/-- The loop goes on behind the right operand of an operator. -/
theorem operators_continue {op : BinaryOperator} {others : List Terminal} {result : Expr}
    (loose : least ≤ op.precedence)
    (right : (expression (op.precedence + 1)).Reads spelling value (others ++ after))
    (continues : (operators expression least steps (.binary op left value)).Reads others result
      after) :
    (operators expression least (steps + 1) left).Reads (op.terminal :: (spelling ++ others))
      result after := by
  apply Reads.look
  rw [List.cons_append]
  dsimp only [ahead]
  rw [startsPredicate_terminal, binaryOperator?_terminal]
  change Reads (if op.precedence < least then _ else _) _ _ _
  rw [if_neg (Nat.not_lt.mpr loose)]
  exact .advance fun _ => right.bind continues

/-- An operator that is tight enough is read with its right side. -/
theorem operators_binary {op : BinaryOperator} (stops : Stops least (ahead after))
    (loose : least ≤ op.precedence)
    (right : (expression (op.precedence + 1)).Reads spelling value after) :
    (operators expression least (steps + 2) left).Reads (op.terminal :: spelling)
      (.binary op left value) after := by
  rw [← List.append_nil spelling]
  exact operators_continue loose right (operators_stop stops)

/-- A predicate is read where it starts. -/
theorem operators_predicate (stops : Stops 1 (ahead after))
    (starts : startsPredicate (ahead (spelling ++ after)) (ahead (spelling ++ after).tail))
    (reads : (predicate expression left).Reads spelling value after) :
    (operators expression 1 (steps + 2) left).Reads spelling value after := by
  apply Reads.look
  dsimp only
  rw [if_pos starts, if_neg (by decide)]
  rw [← List.append_nil spelling]
  exact reads.bind (operators_stop stops)

/-- A test for null is read back. -/
theorem predicate_isNull (operand : Expr) (negated : Bool) (after : List Terminal) :
    (predicate expression operand).Reads
      (.keyword .is :: (mark negated .not ++ [.keyword .null])) (.isNull operand negated)
      after := by
  refine .accepted ?_
  refine .marked _ rfl nofun ?_
  exact .expect (.pure _ after)

/-- A membership is read back, item by item. -/
theorem predicate_isIn {items : List Expr} (operand : Expr) (negated : Bool)
    (some_item : items ≠ [])
    (each : ∀ item ∈ items, ∀ following,
      ahead following = .symbol .comma ∨ following = .symbol .rightParen :: after →
        (expression 1).Reads item.partTerminals item following) :
    (predicate expression operand).Reads
      (mark negated .not ++ .keyword .«in» :: enclosed (separated (items.map Expr.partTerminals)))
      (.isIn operand items negated) after := by
  refine .absent (by cases negated <;> nofun) ?_
  refine .marked _ rfl nofun ?_
  refine .accepted (.expect ?_)
  refine .bind (list_reads (by nofun) some_item each) ?_
  exact .expect (.pure _ after)

/-- A test of a pattern is read back. -/
theorem predicate_like {pattern : Expr} (operand : Expr) (negated : Bool)
    (reads : (expression (comparisonPrecedence + 1)).Reads spelling pattern after) :
    (predicate expression operand).Reads (mark negated .not ++ .keyword .like :: spelling)
      (.like operand pattern negated) after := by
  refine .absent (by cases negated <;> nofun) ?_
  refine .marked _ rfl nofun ?_
  refine .absent nofun ?_
  exact .accepted (.last reads)

/-- A range is read back, both of its ends. -/
theorem predicate_between {low high : Expr} {spelling' : List Terminal} (operand : Expr)
    (negated : Bool)
    (lower : (expression (comparisonPrecedence + 1)).Reads spelling low
      (.keyword .and :: (spelling' ++ after)))
    (upper : (expression (comparisonPrecedence + 1)).Reads spelling' high after) :
    (predicate expression operand).Reads
      (mark negated .not ++ .keyword .between :: (spelling ++ .keyword .and :: spelling'))
      (.between operand low high negated) after := by
  refine .absent (by cases negated <;> nofun) ?_
  refine .marked _ rfl nofun ?_
  refine .absent nofun (.absent nofun (.accepted ?_))
  refine .bind lower ?_
  exact .expect (.last upper)

/-! ### Operands -/

/-- A literal is read back. -/
theorem operandAt_literal (value : Value) (after : List Terminal) :
    (operandAt (steps + 1) depth).Reads value.terminals (.literal value) after := by
  cases value with
  | null => exact .look (.advance fun _ => .pure _ after)
  | text s => exact .look (.advance fun _ => .pure _ after)
  | boolean b => cases b <;> exact .look (.advance fun _ => .pure _ after)
  | integer n =>
      rw [Value.terminals]
      by_cases negative : n < 0
      · rw [if_pos negative]
        apply Reads.look
        refine .advance fun _ => .advance fun _ => ?_
        rw [Int64.neg_neg]
        exact .pure _ after
      · rw [if_neg negative]
        exact .look (.advance fun _ => .pure _ after)
  | float x =>
      rw [Value.terminals]
      by_cases negative : x.isNegative
      · rw [if_pos negative]
        apply Reads.look
        refine .advance fun _ => .advance fun _ => ?_
        rw [Binary64.neg_neg]
        exact .pure _ after
      · rw [if_neg negative]
        exact .look (.advance fun _ => .pure _ after)

/-- A column is read back, unless a parenthesis follows that would make it a call. -/
theorem operandAt_column (s : String) (apart : ahead after ≠ .symbol .leftParen) :
    (operandAt (steps + 1) depth).Reads [.name s] (.column s) after := by
  apply Reads.look
  change Reads (if ahead after = .symbol .leftParen then _ else _) _ _ _
  rw [if_neg apart]
  exact .last (name_reads s after)

/-- An expression in parentheses is read back. -/
theorem operandAt_enclosed
    (reads : (expressionAt steps depth 1).Reads spelling value (.symbol .rightParen :: after)) :
    (operandAt (steps + 1) depth).Reads (enclosed spelling) value after := by
  apply Reads.look
  exact .advance fun _ => .bind reads (.expect (.pure value after))

/-- A negation is read back. -/
theorem operandAt_not (reads : (expressionAt steps depth comparisonPrecedence).Reads spelling value
    after) : (operandAt (steps + 1) depth).Reads (.keyword .not :: spelling) (.unary .not value)
      after := by
  apply Reads.look
  exact .advance fun _ => .last reads

/-- A minus sign in front of a parenthesis does not belong to a number. -/
theorem operandAt_minus (within : depth < maxNesting)
    (reads : (operandAt steps (depth + 1)).Reads (enclosed spelling) value after) :
    (operandAt (steps + 1) depth).Reads (.symbol .minus :: enclosed spelling) (.unary .minus value)
      after := by
  apply Reads.look
  refine .advance fun _ => ?_
  change Reads (if maxNesting ≤ depth then _ else _) _ _ _
  rw [if_neg (Nat.not_le.mpr within)]
  exact .last reads

/-- An aggregate is read back behind its keyword. -/
theorem operandAt_aggregate {function : AggregateFunction}
    (reads : (aggregateCall (expressionAt steps depth) function).Reads
      (.keyword function.keyword :: enclosed spelling) value after) :
    (operandAt (steps + 1) depth).Reads (.keyword function.keyword :: enclosed spelling) value
      after := by
  cases function <;> exact .look reads

/-- The count of all rows is read back. -/
theorem aggregateCall_rows (after : List Terminal) :
    (aggregateCall expression .count).Reads (.keyword .count :: enclosed [.symbol .star])
      (.aggregate .count none false) after := by
  refine .advance fun _ => .expect ?_
  exact .accepted (.expect (.pure _ after))

/-- An aggregate of an argument is read back. -/
theorem aggregateCall_argument (function : AggregateFunction) (distinct : Bool)
    (reads : (expression 1).Reads (enclosed spelling) value (.symbol .rightParen :: after)) :
    (aggregateCall expression function).Reads
      (.keyword function.keyword :: enclosed (mark distinct .distinct ++ enclosed spelling))
      (.aggregate function (some value) distinct) after := by
  refine .advance fun _ => .expect ?_
  have argument : (accept (.keyword .distinct) >>= fun distinct => do
      let argument ← expression 1
      expectSymbol .rightParen
      return .aggregate function (some argument) distinct : Parser Expr).Reads
      (mark distinct .distinct ++ enclosed spelling ++ [.symbol .rightParen])
      (.aggregate function (some value) distinct) after := by
    rw [List.append_assoc]
    refine .marked _ rfl nofun ?_
    exact .bind reads (.expect (.pure _ after))
  by_cases counts : function = .count
  · rw [acceptIf, if_pos (decide_eq_true counts)]
    refine .absent ?_ argument
    cases distinct <;> nofun
  · rw [acceptIf, if_neg (by simp [counts])]
    exact argument

/-! ### Calls -/

theorem ofName?_name (function : ScalarFunction) :
    ScalarFunction.ofName? function.name = some function := by
  cases function <;> decide +kernel

theorem ofName?_unit (unit : IntervalUnit) : IntervalUnit.ofName? unit.name = some unit := by
  cases unit <;> decide +kernel

variable {operand : Parser Expr}

/-- An argument in parentheses is read back. -/
theorem argument_expression (function : ScalarFunction) (position : Nat)
    (reads : (expression 1).Reads (enclosed spelling) value after) :
    (argument expression operand function position).Reads (enclosed spelling) value after := by
  by_cases second : function = .dateSub ∧ position = 1
  · rw [argument, acceptIf, if_pos (decide_eq_true second)]
    exact .absent nofun reads
  · rw [argument, acceptIf, if_neg (by rwa [decide_eq_true_iff])]
    exact reads

/-- The amount and the unit of an interval are read back. -/
theorem intervalAmount_reads (unit : IntervalUnit)
    (reads : operand.Reads spelling value (.name unit.name :: after)) :
    (intervalAmount operand).Reads (spelling ++ [.name unit.name]) (.interval value unit)
      after := by
  refine .bind reads (.look ?_)
  dsimp only [List.singleton_append, ahead]
  rw [ofName?_unit]
  exact .advance fun _ => .pure _ after

/-- The second argument of a date subtraction is read back as an interval. -/
theorem argument_interval (unit : IntervalUnit)
    (reads : operand.Reads spelling value (.name unit.name :: after)) :
    (argument expression operand .dateSub 1).Reads
      (.keyword .interval :: (spelling ++ [.name unit.name])) (.interval value unit) after :=
  .accepted (intervalAmount_reads unit reads)

/-- A part starts with a parenthesis, or as an interval. -/
theorem ahead_partTerminals (part : Expr) (rest : List Terminal) :
    ahead (part.partTerminals ++ rest) =
      if part.isInterval then .keyword .interval else .symbol .leftParen := by
  unfold Expr.partTerminals Expr.enclose
  split
  · cases part with
    | interval amount unit => rfl
    | _ => contradiction
  · rfl

/-- A separated list starts with its first item. -/
theorem exists_separated_cons (item : List Terminal) (items : List (List Terminal)) :
    ∃ others, separated (item :: items) = item ++ others := by
  cases items with
  | nil => exact ⟨[], (List.append_nil item).symm⟩
  | cons next rest => exact ⟨_, rfl⟩

/-- A list of arguments is read back, argument by argument. -/
theorem argumentList_reads {function : ScalarFunction} {arguments : List Expr}
    {write : Expr → List Terminal}
    (opens : ∀ value rest, ahead (write value ++ rest) ≠ .symbol .rightParen)
    (each : ∀ place value, arguments[place]? = some value → ∀ following,
      ahead following = .symbol .comma ∨ following = .symbol .rightParen :: after →
        (argument expression operand function place).Reads (write value) value following) :
    (argumentList expression operand function).Reads (separated (arguments.map write)) arguments
      (.symbol .rightParen :: after) := by
  intro tokens rest spelled follow
  rw [argumentList, front_eq, List.map_append, spelled, follow]
  cases arguments with
  | nil =>
      rw [List.map_eq_nil_iff.mp spelled]
      exact if_pos rfl
  | cons value others =>
      obtain ⟨behind, written⟩ := exists_separated_cons (write value) (others.map write)
      rw [if_neg]
      · exact places_reads (by nofun) (List.cons_ne_nil _ _) each tokens rest spelled follow
      · rw [List.map_cons, written, List.append_assoc]
        exact opens value _

/-- A call with the right number of arguments is read back. -/
theorem functionCall_reads {function : ScalarFunction} {arguments : List Expr}
    (number : arguments.length = function.arity)
    (reads : (argumentList expression operand function).Reads spelling arguments
      (.symbol .rightParen :: after)) :
    (functionCall expression operand function.name).Reads
      (.name function.name :: enclosed spelling) (.call function arguments) after := by
  unfold functionCall
  rw [ofName?_name]
  refine .advance fun _ => .expect (.bind reads ?_)
  rw [if_neg (by omega), if_neg (by omega)]
  exact .expect (.pure _ after)

/-- A call is read back as an operand. -/
theorem operandAt_call {function : ScalarFunction}
    (reads : (functionCall (expressionAt steps depth) (operandAt steps depth) function.name).Reads
      (.name function.name :: enclosed spelling) value after) :
    (operandAt (steps + 1) depth).Reads (.name function.name :: enclosed spelling) value after := by
  apply Reads.look
  exact reads

/-! ### Whole expressions -/

variable {behind : List Terminal} {part : Expr}

/-- An operand behind which the operators stop is read back as an expression. -/
theorem expressionAt_operand (within : depth < maxNesting) (stops : Stops least (ahead after))
    (reads : (operandAt steps (depth + 1)).Reads spelling value after) :
    (expressionAt (steps + 1) depth least).Reads spelling value after := by
  rw [expressionAt, if_neg (Nat.not_le.mpr within), ← List.append_nil spelling]
  refine .bind reads ?_
  intro tokens rest spelled follow
  exact operators_stop stops tokens rest spelled follow

/-- An operand and what operators make of it are read back as an expression. -/
theorem expressionAt_behind (within : depth < maxNesting) (written : behind ≠ [])
    (reads : (operandAt steps (depth + 1)).Reads spelling left (behind ++ after))
    (continues : ∀ size, (operators (expressionAt steps (depth + 1)) least (size + 2) left).Reads
      behind value after) :
    (expressionAt (steps + 1) depth least).Reads (spelling ++ behind) value after := by
  rw [expressionAt, if_neg (Nat.not_le.mpr within)]
  refine .bind reads ?_
  intro tokens rest spelled follow
  cases tokens with
  | nil => exact absurd spelled.symm written
  | cons token tokens => exact continues _ (token :: tokens) rest spelled follow

/-- An expression is read if there are two steps for each of its terminals and two
levels for each node on its longest path, one of them for the parentheses. -/
def Readable (steps : Nat) (expression : Expr) : Prop :=
  expression.Expressible → 2 * expression.terminals.length ≤ steps →
    ∀ depth after, depth + 2 * expression.height ≤ maxNesting + 1 → Stops 1 (ahead after) →
      ahead after ≠ .symbol .leftParen →
        (expressionAt steps depth 1).Reads expression.terminals expression after

namespace Readable

/-- A readable part is read back as an operand. -/
theorem part_operand (reads : Readable steps part) (expressible : part.Expressible)
    (enough : 2 * part.terminals.length ≤ steps)
    (levels : depth + 2 * part.height ≤ maxNesting + 1) (after : List Terminal) :
    (operandAt (steps + 1) depth).Reads part.partTerminals part after := by
  rw [Expr.partTerminals_eq expressible.not_interval]
  refine operandAt_enclosed (reads expressible enough depth _ levels ?_ nofun)
  exact stops_of_none (fun _ => rfl) rfl

/-- A readable part is read back as an expression. -/
theorem part_expression (reads : Readable steps part) (expressible : part.Expressible)
    (enough : 2 * part.terminals.length ≤ steps)
    (levels : depth + 1 + 2 * part.height ≤ maxNesting + 1) (stops : Stops least (ahead after)) :
    (expressionAt (steps + 2) depth least).Reads part.partTerminals part after := by
  have within : depth < maxNesting := by
    have positive := part.height_pos
    omega
  exact expressionAt_operand within stops (reads.part_operand expressible enough levels after)

/-- A readable part with operators behind it is read back as an expression. -/
theorem part_behind (reads : Readable steps part) (expressible : part.Expressible)
    (enough : 2 * part.terminals.length ≤ steps)
    (levels : depth + 1 + 2 * part.height ≤ maxNesting + 1) (written : behind ≠ [])
    (continues : ∀ size, (operators (expressionAt (steps + 1) (depth + 1)) least (size + 2)
      part).Reads behind value after) :
    (expressionAt (steps + 2) depth least).Reads (part.partTerminals ++ behind) value after := by
  have within : depth < maxNesting := by
    have positive := part.height_pos
    omega
  exact expressionAt_behind within written (reads.part_operand expressible enough levels _)
    continues

end Readable

theorem precedence_pos (op : BinaryOperator) : 1 ≤ op.precedence := by
  cases op <;> decide

/-- Every value is written with some terminal. -/
theorem Value.terminals_ne_nil (value : Value) : value.terminals ≠ [] := by
  cases value with
  | integer n =>
      rw [Value.terminals]
      split <;> nofun
  | float x =>
      rw [Value.terminals]
      split <;> nofun
  | _ => nofun

/-! ### The forms of expressions -/

/-- A part whose height fits within the levels left is not too deep. -/
theorem within_of_levels (levels : depth + 2 * part.height ≤ maxNesting + 1) :
    depth < maxNesting := by
  have positive := part.height_pos
  omega

theorem exists_steps {n : Nat} (enough : n ≤ steps) : ∃ fewer, steps = fewer + n :=
  Nat.exists_eq_add_of_le' enough

/-- A part of an expressible expression is expressible and lower, and is written with two
more terminals. -/
theorem fits {whole : Expr} {descent : Expr.Descent} (expressible : whole.Expressible)
    (member : (descent, part) ∈ whole.parts) (plain : part.isInterval = false) :
    part.Expressible ∧ part.height < whole.height ∧
      part.partTerminals.length = part.terminals.length + 2 := by
  refine ⟨expressible.of_mem_parts member plain, Expr.height_lt_of_mem_parts member, ?_⟩
  simp [Expr.partTerminals_eq plain, enclosed]

theorem part_length_le {items : List Expr} (among : part ∈ items) :
    part.partTerminals.length ≤ (separated (items.map Expr.partTerminals)).length :=
  length_le_of_mem_separated (List.mem_map.mpr ⟨part, among, rfl⟩)

theorem column_readable (s : String) : Readable steps (.column s) := by
  intro expressible enough depth after levels stops apart
  obtain ⟨n, rfl⟩ : ∃ n, steps = n + 2 := exists_steps enough
  exact expressionAt_operand (within_of_levels levels) stops (operandAt_column s apart)

/-- A literal is readable. -/
theorem literal_readable (value : Value) : Readable steps (.literal value) := by
  intro expressible enough depth after levels stops apart
  have written := List.length_pos_iff.mpr (Value.terminals_ne_nil value)
  rw [Expr.terminals] at enough
  obtain ⟨n, rfl⟩ : ∃ n, steps = n + 2 := exists_steps (by omega)
  exact expressionAt_operand (within_of_levels levels) stops (operandAt_literal value after)

section

variable (smaller : ∀ fewer < steps, ∀ part, Readable fewer part)

include smaller

/-- A binary expression is readable if its sides are. -/
theorem binary_readable (op : BinaryOperator) (left right : Expr) :
    Readable steps (.binary op left right) := by
  intro expressible enough depth after levels stops apart
  have places := expressible.intervals _ (Expr.self_mem_nodes _)
  obtain ⟨first, lower, size⟩ := fits expressible (.head _) (places _ (.head _))
  obtain ⟨second, lower', size'⟩ :=
    fits expressible (.tail _ (.head _)) (places _ (.tail _ (.head _)))
  rw [Expr.terminals_binary, List.length_append, List.length_cons, size, size'] at enough
  obtain ⟨n, rfl⟩ : ∃ n, steps = n + 4 := exists_steps (by omega)
  refine (smaller (n + 2) (by omega) left).part_behind first (by omega) (by omega) nofun fun _ => ?_
  refine operators_binary stops (precedence_pos op) ?_
  exact (smaller (n + 1) (by omega) right).part_expression second (by omega) (by omega)
    (stops.mono (Nat.le_add_left _ _))

/-- A negation is readable if its operand is. -/
theorem not_readable (operand : Expr) : Readable steps (.unary .not operand) := by
  intro expressible enough depth after levels stops apart
  have places := expressible.intervals _ (Expr.self_mem_nodes _)
  obtain ⟨inner, lower, size⟩ := fits expressible (.head _) (places _ (.head _))
  rw [Expr.terminals_not, List.length_cons, size] at enough
  obtain ⟨n, rfl⟩ : ∃ n, steps = n + 4 := exists_steps (by omega)
  refine expressionAt_operand (within_of_levels levels) stops (operandAt_not ?_)
  exact (smaller n (by omega) operand).part_expression inner (by omega) (by omega)
    (stops.mono (by decide))

/-- A changed sign is readable if its operand is. -/
theorem minus_readable (operand : Expr) : Readable steps (.unary .minus operand) := by
  intro expressible enough depth after levels stops apart
  have places := expressible.intervals _ (Expr.self_mem_nodes _)
  obtain ⟨inner, lower, size⟩ := fits expressible (.head _) (places _ (.head _))
  have positive := operand.height_pos
  rw [Expr.terminals_minus] at enough ⊢
  rw [List.length_cons, size] at enough
  obtain ⟨n, rfl⟩ : ∃ n, steps = n + 4 := exists_steps (by omega)
  have reads : (operandAt (n + 2) (depth + 2)).Reads operand.partTerminals operand after :=
    (smaller (n + 1) (by omega) operand).part_operand inner (by omega) (by omega) after
  rw [Expr.partTerminals_eq inner.not_interval] at reads ⊢
  exact expressionAt_operand (within_of_levels levels) stops (operandAt_minus (by omega) reads)

/-- An aggregate is readable if its argument is. -/
theorem aggregate_readable (function : AggregateFunction) (argument : Expr) (distinct : Bool) :
    Readable steps (.aggregate function (some argument) distinct) := by
  intro expressible enough depth after levels stops apart
  have places := expressible.intervals _ (Expr.self_mem_nodes _)
  obtain ⟨inner, lower, size⟩ := fits expressible (.head _) (places _ (.head _))
  rw [Expr.terminals_aggregate] at enough ⊢
  simp only [enclosed, List.length_cons, List.length_append, size] at enough
  obtain ⟨n, rfl⟩ : ∃ n, steps = n + 4 := exists_steps (by omega)
  have reads : (expressionAt (n + 2) (depth + 1) 1).Reads argument.partTerminals argument
      (.symbol .rightParen :: after) :=
    (smaller n (by omega) argument).part_expression inner (by omega) (by omega)
      (stops_of_none (fun _ => rfl) rfl)
  rw [Expr.partTerminals_eq inner.not_interval] at reads ⊢
  refine expressionAt_operand (within_of_levels levels) stops (operandAt_aggregate ?_)
  exact aggregateCall_argument function distinct reads

omit smaller in
/-- The count of all rows is readable. -/
theorem count_readable (function : AggregateFunction) (distinct : Bool) :
    Readable steps (.aggregate function none distinct) := by
  intro expressible enough depth after levels stops apart
  obtain ⟨rfl, rfl⟩ := expressible.formed _ (Expr.self_mem_nodes _)
  obtain ⟨n, rfl⟩ : ∃ n, steps = n + 2 := exists_steps (Nat.le_trans (by decide) enough)
  refine expressionAt_operand (within_of_levels levels) stops (operandAt_aggregate ?_)
  exact aggregateCall_rows after

/-- The items of a list are read in front of a comma or the closing parenthesis. -/
theorem item_reads {whole : Expr} {n : Nat} {descent : Expr.Descent} {behind : List Terminal}
    (expressible : whole.Expressible) (member : (descent, part) ∈ whole.parts)
    (plain : part.isInterval = false) (fewer : n < steps)
    (enough : 2 * part.partTerminals.length ≤ n + 4)
    (levels : depth + 2 * whole.height ≤ maxNesting + 1)
    (ends : ahead after = .symbol .comma ∨ after = .symbol .rightParen :: behind) :
    (expressionAt (n + 2) (depth + 1) 1).Reads part.partTerminals part after := by
  obtain ⟨inner, lower, size⟩ := fits expressible member plain
  refine (smaller n fewer part).part_expression inner (by omega) (by omega) ?_
  rcases ends with comma | rfl
  · exact comma ▸ stops_of_none (fun _ => rfl) rfl
  · exact stops_of_none (fun _ => rfl) rfl

/-- A membership is readable if its operand and its items are. -/
theorem isIn_readable (operand : Expr) (items : List Expr) (negated : Bool) :
    Readable steps (.isIn operand items negated) := by
  intro expressible enough depth after levels stops apart
  have places := expressible.intervals _ (Expr.self_mem_nodes _)
  obtain ⟨first, lower, size⟩ := fits expressible (.head _) (places _ (.head _))
  rw [Expr.terminals_isIn] at enough ⊢
  simp only [enclosed, List.length_cons, List.length_append, size] at enough
  obtain ⟨n, rfl⟩ : ∃ n, steps = n + 4 := exists_steps (by omega)
  refine (smaller (n + 2) (by omega) operand).part_behind first (by omega) (by omega)
    (by simp) fun _ => ?_
  refine operators_predicate stops (by cases negated <;> rfl) ?_
  refine predicate_isIn operand negated (expressible.formed _ (Expr.self_mem_nodes _)) ?_
  intro item among following ends
  have member : (item.descent, item) ∈ (Expr.isIn operand items negated).parts :=
    List.mem_cons_of_mem _ (List.mem_map.mpr ⟨item, among, rfl⟩)
  have short := part_length_le among
  exact item_reads smaller expressible member (places _ member) (by omega) (by omega) levels ends

/-- A test of a pattern is readable if its operands are. -/
theorem like_readable (operand pattern : Expr) (negated : Bool) :
    Readable steps (.like operand pattern negated) := by
  intro expressible enough depth after levels stops apart
  have places := expressible.intervals _ (Expr.self_mem_nodes _)
  obtain ⟨first, lower, size⟩ := fits expressible (.head _) (places _ (.head _))
  obtain ⟨second, lower', size'⟩ :=
    fits expressible (.tail _ (.head _)) (places _ (.tail _ (.head _)))
  rw [Expr.terminals_like] at enough ⊢
  simp only [List.length_cons, List.length_append, size, size'] at enough
  obtain ⟨n, rfl⟩ : ∃ n, steps = n + 4 := exists_steps (by omega)
  refine (smaller (n + 2) (by omega) operand).part_behind first (by omega) (by omega)
    (by simp) fun _ => ?_
  refine operators_predicate stops (by cases negated <;> rfl) ?_
  refine predicate_like operand negated ?_
  exact (smaller (n + 1) (by omega) pattern).part_expression second (by omega) (by omega)
    (stops.mono (by decide))

/-- A range is readable if its operands are. -/
theorem between_readable (operand low high : Expr) (negated : Bool) :
    Readable steps (.between operand low high negated) := by
  intro expressible enough depth after levels stops apart
  have places := expressible.intervals _ (Expr.self_mem_nodes _)
  obtain ⟨first, lower, size⟩ := fits expressible (.head _) (places _ (.head _))
  obtain ⟨second, lower', size'⟩ :=
    fits expressible (.tail _ (.head _)) (places _ (.tail _ (.head _)))
  obtain ⟨third, lower'', size''⟩ := fits expressible (.tail _ (.tail _ (.head _)))
    (places _ (.tail _ (.tail _ (.head _))))
  rw [Expr.terminals_between] at enough ⊢
  simp only [List.length_cons, List.length_append, size, size', size''] at enough
  obtain ⟨n, rfl⟩ : ∃ n, steps = n + 4 := exists_steps (by omega)
  refine (smaller (n + 2) (by omega) operand).part_behind first (by omega) (by omega)
    (by simp) fun _ => ?_
  refine operators_predicate stops (by cases negated <;> rfl) ?_
  refine predicate_between operand negated ?_ ?_
  · -- The conjunction inside binds less tightly than the bounds.
    refine (smaller (n + 1) (by omega) low).part_expression second (by omega) (by omega) ?_
    refine ⟨nofun, fun op denoted => ?_⟩
    cases denoted
    decide
  · exact (smaller (n + 1) (by omega) high).part_expression third (by omega) (by omega)
      (stops.mono (by decide))

/-- A test for null is readable if its operand is. -/
theorem isNull_readable (operand : Expr) (negated : Bool) :
    Readable steps (.isNull operand negated) := by
  intro expressible enough depth after levels stops apart
  have places := expressible.intervals _ (Expr.self_mem_nodes _)
  obtain ⟨first, lower, size⟩ := fits expressible (.head _) (places _ (.head _))
  rw [Expr.terminals_isNull] at enough ⊢
  simp only [List.length_cons, List.length_append, size] at enough
  obtain ⟨n, rfl⟩ : ∃ n, steps = n + 2 := exists_steps (by omega)
  refine (smaller n (by omega) operand).part_behind first (by omega) (by omega) nofun fun _ => ?_
  exact operators_predicate stops rfl (predicate_isNull operand negated after)

omit smaller in
/-- The arguments of a function are plain, except for the interval of a date
subtraction. -/
theorem plain_or_second {function : ScalarFunction} {arguments : List Expr} {place : Nat}
    (places : (Expr.call function arguments).PlacesIntervals)
    (found : arguments[place]? = some part) :
    part.isInterval = false ∨ function = .dateSub ∧ place = 1 := by
  unfold Expr.PlacesIntervals at places
  split at places
  · rename_i base second shape
    cases shape
    match place with
    | 0 =>
        cases found
        exact .inl places
    | 1 => exact .inr ⟨rfl, rfl⟩
  · exact .inl (places _ (List.mem_map.mpr ⟨part, List.mem_of_getElem? found, rfl⟩))

/-- An argument of an expressible call is read back in its place. -/
theorem argument_reads {function : ScalarFunction} {arguments : List Expr} {place n : Nat}
    (expressible : (Expr.call function arguments).Expressible)
    (found : arguments[place]? = some part) (fewer : n + 3 < steps)
    (enough : 2 * part.partTerminals.length ≤ n)
    (levels : depth + 2 * (Expr.call function arguments).height ≤ maxNesting + 1)
    (ends : ahead after = .symbol .comma ∨ after = .symbol .rightParen :: behind) :
    (argument (expressionAt (n + 2) (depth + 1)) (operandAt (n + 2) (depth + 1)) function
      place).Reads part.partTerminals part after := by
  have among : (part.descent, part) ∈ (Expr.call function arguments).parts :=
    List.mem_map.mpr ⟨part, List.mem_of_getElem? found, rfl⟩
  by_cases plain : part.isInterval = false
  · have reads := item_reads smaller expressible among plain (by omega : n < steps) (by omega)
      levels ends
    rw [Expr.partTerminals_eq plain] at reads ⊢
    exact argument_expression function place reads
  · obtain ⟨rfl, rfl⟩ := (plain_or_second (expressible.intervals _ (Expr.self_mem_nodes _))
      found).resolve_left plain
    cases part with
    | interval amount unit =>
        have lower := Expr.height_lt_of_mem_parts among
        rw [Expr.height_interval] at lower
        have inner := expressible.amount among
        have short : (Expr.interval amount unit).partTerminals = _ :=
          Expr.terminals_interval amount unit
        rw [short, Expr.partTerminals_eq inner.not_interval] at enough
        simp only [enclosed, List.length_cons, List.length_append] at enough
        exact argument_interval unit ((smaller (n + 1) (by omega) amount).part_operand inner
          (by omega) (by omega) _)
    | _ => contradiction

/-- A call is readable if its arguments are. -/
theorem call_readable (function : ScalarFunction) (arguments : List Expr) :
    Readable steps (.call function arguments) := by
  intro expressible enough depth after levels stops apart
  rw [Expr.terminals_call] at enough ⊢
  simp only [enclosed, List.length_cons, List.length_append] at enough
  obtain ⟨n, rfl⟩ : ∃ n, steps = n + 4 := exists_steps (by omega)
  refine expressionAt_operand (within_of_levels levels) stops (operandAt_call ?_)
  refine functionCall_reads (expressible.formed _ (Expr.self_mem_nodes _)) ?_
  refine argumentList_reads ?_ fun place value found following ends => ?_
  · intro value rest
    rw [ahead_partTerminals]
    split <;> nofun
  have short := part_length_le (List.mem_of_getElem? found)
  exact argument_reads smaller expressible found (by omega) (by omega) levels ends

end

/-- Every expression is readable, by induction on the steps. -/
theorem expression_readable (steps : Nat) (expression : Expr) : Readable steps expression := by
  induction steps using Nat.strong_induction_on generalizing expression with
  | _ steps smaller =>
      cases expression with
      | column s => exact column_readable s
      | literal value => exact literal_readable value
      | binary op left right => exact binary_readable smaller op left right
      | unary op operand =>
          cases op with
          | not => exact not_readable smaller operand
          | minus => exact minus_readable smaller operand
      | aggregate function argument distinct =>
          cases argument with
          | none => exact count_readable function distinct
          | some argument => exact aggregate_readable smaller function argument distinct
      | call function arguments => exact call_readable smaller function arguments
      | interval amount unit => exact fun expressible => nomatch expressible.not_interval
      | isIn operand items negated => exact isIn_readable smaller operand items negated
      | between operand low high negated => exact between_readable smaller operand low high negated
      | like operand pattern negated => exact like_readable smaller operand pattern negated
      | isNull operand negated => exact isNull_readable smaller operand negated

/-- Every expression that the grammar can form is read back from its spelling if
twice its height is within the limit on nesting. -/
theorem expression_reads {value : Expr} (expressible : value.Expressible)
    (levels : 2 * value.height ≤ maxNesting) (stops : Stops 1 (ahead after))
    (apart : ahead after ≠ .symbol .leftParen) :
    Grammar.expression.Reads value.terminals value after := by
  intro tokens rest spelled follow
  refine expression_readable _ value expressible ?_ 0 after (by omega) stops apart tokens rest
    spelled follow
  rw [← spelled, List.length_map, List.length_append]
  omega

end Grammar

end Relational
