import Relational.Grammar.Expression

/-!
# Parts of rules

The rules for expressions are long, and what is proved about them is proved part by part.
The parts are named here: what stands behind the word of a predicate, behind the name of
a function, and behind the amount of an interval.  The loop over operators is taken apart
into its turns.
-/

namespace Relational

namespace Grammar

variable {expression : Nat → Parser Expr} {operand : Parser Expr} {least steps : Nat} {left : Expr}
  {function : ScalarFunction} {terminal : Terminal} {op : BinaryOperator} {token : Token}
  {tokens : List Token}

/-! ### Predicates -/

/-- What stands behind `IS`. -/
def nullTest (operand : Expr) : Parser Expr := do
  let negated ← accept (.keyword .not)
  expectKeyword .null
  return .isNull operand negated

/-- What stands behind `IN`. -/
def membership (expression : Nat → Parser Expr) (operand : Expr) (negated : Bool) :
    Parser Expr := do
  expectSymbol .leftParen
  let items ← list (expression 1)
  expectSymbol .rightParen
  return .isIn operand items negated

/-- What stands behind `LIKE`. -/
def likeness (expression : Nat → Parser Expr) (operand : Expr) (negated : Bool) :
    Parser Expr := do
  let pattern ← expression (comparisonPrecedence + 1)
  return .like operand pattern negated

/-- What stands behind `BETWEEN`. -/
def range (expression : Nat → Parser Expr) (operand : Expr) (negated : Bool) : Parser Expr := do
  let low ← expression (comparisonPrecedence + 1)
  expectKeyword .and
  let high ← expression (comparisonPrecedence + 1)
  return .between operand low high negated

/-- The rest of a predicate, which starts with the word that tells its form. -/
def continuation (expression : Nat → Parser Expr) (operand : Expr) (negated : Bool) :
    Parser Expr := do
  if ← accept (.keyword .«in») then membership expression operand negated
  else if ← accept (.keyword .like) then likeness expression operand negated
  else if ← accept (.keyword .between) then range expression operand negated
  else Parser.refuse .predicate

/-- A predicate is a test for null, or goes on behind an optional `NOT`. -/
theorem predicate_eq (expression : Nat → Parser Expr) (operand : Expr) :
    predicate expression operand = accept (.keyword .is) >>= fun tested =>
      if tested then nullTest operand
      else accept (.keyword .not) >>= continuation expression operand :=
  rfl

/-- What follows an operand is a predicate, an operator with its right side, or nothing. -/
theorem operators_eq (expression : Nat → Parser Expr) (least steps : Nat) (left : Expr)
    (tokens : List Token) :
    operators expression least (steps + 1) left tokens =
      (if startsPredicate (front tokens) (front tokens.tail) then
        if comparisonPrecedence < least then Pure.pure left
        else predicate expression left >>= operators expression least steps
      else
        match binaryOperator? (front tokens) with
        | none => Pure.pure left
        | some op =>
          if op.precedence < least then Pure.pure left
          else advance >>= fun _ => expression (op.precedence + 1) >>= fun right =>
            operators expression least steps (.binary op left right)) tokens :=
  rfl

/-! ### The loop over operators -/

/-- No operator starts a predicate. -/
theorem startsPredicate_operator (denoted : binaryOperator? terminal = some op)
    (second : Terminal) : startsPredicate terminal second = false := by
  cases terminal with
  | keyword word => cases word <;> first | rfl | cases denoted
  | _ => rfl

/-- No operator or predicate that binds tightly enough is at the front. -/
structure Rests (least : Nat) (tokens : List Token) : Prop where
  predicate : startsPredicate (front tokens) (front tokens.tail) → comparisonPrecedence < least
  operator : ∀ op, binaryOperator? (front tokens) = some op → op.precedence < least

/-- The loop stops at what is in front of it, or goes on behind a predicate or an
operator. -/
inductive Turn (least : Nat) : List Token → Prop
  | rests {tokens : List Token} (rests : Rests least tokens) : Turn least tokens
  | predicate {tokens : List Token} (starts : startsPredicate (front tokens) (front tokens.tail))
      (loose : least ≤ comparisonPrecedence) : Turn least tokens
  | operator {token : Token} {op : BinaryOperator}
      (denoted : binaryOperator? token.terminal = some op) (loose : least ≤ op.precedence)
      (tokens : List Token) : Turn least (token :: tokens)

/-- The loop of operators takes one of its turns at any tokens. -/
theorem turn (least : Nat) (tokens : List Token) : Turn least tokens := by
  by_cases starts : startsPredicate (front tokens) (front tokens.tail)
  · by_cases tight : comparisonPrecedence < least
    · refine .rests ⟨fun _ => tight, fun op denoted => ?_⟩
      rw [startsPredicate_operator denoted] at starts
      cases starts
    · exact .predicate starts (Nat.le_of_not_lt tight)
  · cases denoted : binaryOperator? (front tokens) with
    | none =>
        refine .rests ⟨(absurd · starts), fun other found => ?_⟩
        cases denoted.symm.trans found
    | some op =>
        by_cases tight : op.precedence < least
        · refine .rests ⟨(absurd · starts), fun other found => ?_⟩
          cases denoted.symm.trans found
          exact tight
        · cases tokens with
          | nil => cases denoted
          | cons token tokens => exact .operator denoted (Nat.le_of_not_lt tight) tokens

/-- Where the loop of operators rests, it leaves its operand and the tokens as they are. -/
theorem operators_rest (rests : Rests least tokens) :
    operators expression least (steps + 1) left tokens = .ok (left, tokens) := by
  rw [operators_eq]
  by_cases starts : startsPredicate (front tokens) (front tokens.tail)
  · rw [if_pos starts, if_pos (rests.predicate starts)]
    rfl
  · rw [if_neg starts]
    cases denoted : binaryOperator? (front tokens) with
    | none => rfl
    | some op =>
        dsimp only
        rw [if_pos (rests.operator op denoted)]
        rfl

/-- Where a predicate starts, the loop of operators reads it and goes on. -/
theorem operators_predicated (starts : startsPredicate (front tokens) (front tokens.tail))
    (loose : least ≤ comparisonPrecedence) :
    operators expression least (steps + 1) left tokens =
      (predicate expression left >>= operators expression least steps) tokens := by
  rw [operators_eq, if_pos starts, if_neg (Nat.not_lt.mpr loose)]

/-- Where an operator stands, the loop of operators reads its right side and goes on. -/
theorem operators_operator (denoted : binaryOperator? token.terminal = some op)
    (loose : least ≤ op.precedence) :
    operators expression least (steps + 1) left (token :: tokens) =
      (expression (op.precedence + 1) >>= fun right =>
        operators expression least steps (.binary op left right)) tokens := by
  have apart (second : Terminal) : ¬startsPredicate (front (token :: tokens)) second := by
    rw [front, startsPredicate_operator denoted]
    exact Bool.false_ne_true
  rw [operators_eq, if_neg (apart _)]
  change (match binaryOperator? token.terminal with | none => _ | some op => _ : Parser Expr) _ = _
  rw [denoted]
  dsimp only
  rw [if_neg (Nat.not_lt.mpr loose)]
  rfl

/-! ### Calls -/

/-- The argument of an aggregate function. -/
def aggregatedArgument (expression : Nat → Parser Expr) (function : AggregateFunction) :
    Parser Expr := do
  let distinct ← accept (.keyword .distinct)
  let argument ← expression 1
  expectSymbol .rightParen
  return .aggregate function (some argument) distinct

/-- The rest of the call of an aggregate function. -/
def aggregated (expression : Nat → Parser Expr) (function : AggregateFunction) : Parser Expr := do
  if ← acceptIf (function = .count) (.symbol .star) then
    expectSymbol .rightParen
    return .aggregate function none false
  else
    aggregatedArgument expression function

/-- An aggregate is a keyword and an argument in parentheses. -/
theorem aggregateCall_eq (expression : Nat → Parser Expr) (function : AggregateFunction) :
    aggregateCall expression function = advance >>= fun _ =>
      expect (.symbol .leftParen) >>= fun _ => aggregated expression function :=
  rfl

/-- The unit of an interval behind its amount. -/
def intervalUnit (amount : Expr) : Parser Expr := do
  match ← look with
  | (.name s, _) =>
    match IntervalUnit.ofName? s with
    | some unit => do
      let _ ← advance
      return .interval amount unit
    | none => Parser.refuse .intervalUnit
  | _ => Parser.refuse .intervalUnit

/-- A name that is that of a unit completes an interval. -/
theorem intervalUnit_known {amount : Expr} {s lexeme : String} {place : Place}
    {unit : IntervalUnit} (named : IntervalUnit.ofName? s = some unit) :
    intervalUnit amount (⟨.name s, lexeme, place⟩ :: tokens) =
      .ok (.interval amount unit, tokens) := by
  change (match IntervalUnit.ofName? s with | some unit => _ | none => _ : Parser Expr) _ = _
  rw [named]
  rfl

/-- A name that is not that of a unit is refused where it stands. -/
theorem intervalUnit_unknown {amount : Expr} {s lexeme : String} {place : Place}
    (unnamed : IntervalUnit.ofName? s = none) :
    intervalUnit amount (⟨.name s, lexeme, place⟩ :: tokens) =
      .error (.unexpected .intervalUnit (⟨.name s, lexeme, place⟩ :: tokens)) := by
  change (match IntervalUnit.ofName? s with | some unit => _ | none => _ : Parser Expr) _ = _
  rw [unnamed]
  rfl

/-- What a call does with its arguments. -/
def counted (function : ScalarFunction) (arguments : List Expr) : Parser Expr :=
  if arguments.length < function.arity then Parser.refuse (.terminal (.symbol .comma))
  else if function.arity < arguments.length then Parser.refuse (.terminal (.symbol .rightParen))
  else do
    expectSymbol .rightParen
    return .call function arguments

/-- A call of a known function is its arguments in parentheses, which are counted behind
them. -/
theorem functionCall_eq {s : String} (known : ScalarFunction.ofName? s = some function) :
    functionCall expression operand s = advance >>= fun _ =>
      expect (.symbol .leftParen) >>= fun _ =>
      argumentList expression operand function >>= counted function := by
  unfold functionCall
  rw [known]
  rfl

/-- Arguments are a list, unless the parenthesis is closed at once. -/
theorem argumentList_eq (some : front tokens ≠ .symbol .rightParen) :
    argumentList expression operand function tokens =
      listFrom (argument expression operand function) (tokens.length + 1) 0 tokens :=
  if_neg some

end Grammar

end Relational
