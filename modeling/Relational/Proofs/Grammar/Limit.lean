import Relational.Proofs.Grammar.Closure

/-!
# Where nesting is refused

Each level of nesting is opened by a token, so that an expression that is refused for its
depth has at least as many tokens in front of the refused one as there are levels.

A parser refuses in the same way when its steps are spent.  A token costs no more than
two of them, and every rule derives its steps from the tokens that follow, so this does
not happen: otherwise it would happen behind fewer tokens.  The proof follows both the
steps that are left and the levels.
-/

namespace Relational

namespace Grammar

variable {α β : Type} {levels least more size steps depth position : Nat}
  {tokens rest behind : List Token} {expression : Nat → Parser Expr} {operand : Parser Expr}

/-! ### What is left -/

/-- Tokens go on, behind at least so many of them, with the ones that are left. -/
def Leaves (least : Nat) (tokens rest : List Token) : Prop :=
  ∃ used, tokens = used ++ rest ∧ least ≤ used.length

namespace Leaves

theorem refl (tokens : List Token) : Leaves 0 tokens tokens :=
  ⟨[], rfl, Nat.le_refl 0⟩

/-- Tokens that were left may leave tokens in turn. -/
theorem trans (leaves : Leaves least tokens rest) (leaves' : Leaves more rest behind) :
    Leaves (least + more) tokens behind := by
  obtain ⟨used, rfl, enough⟩ := leaves
  obtain ⟨used', rfl, enough'⟩ := leaves'
  refine ⟨used ++ used', (List.append_assoc _ _ _).symm, ?_⟩
  rw [List.length_append]
  exact Nat.add_le_add enough enough'

theorem mono (leaves : Leaves more tokens rest) (fewer : least ≤ more) :
    Leaves least tokens rest := by
  obtain ⟨used, split, enough⟩ := leaves
  exact ⟨used, split, Nat.le_trans fewer enough⟩

theorem cons (token : Token) (leaves : Leaves least tokens rest) :
    Leaves (least + 1) (token :: tokens) rest := by
  obtain ⟨used, rfl, enough⟩ := leaves
  exact ⟨token :: used, rfl, Nat.succ_le_succ enough⟩

/-- What is left and what was used are no more than there was. -/
theorem length_add_le (leaves : Leaves least tokens rest) :
    rest.length + least ≤ tokens.length := by
  obtain ⟨used, rfl, enough⟩ := leaves
  rw [List.length_append]
  omega

end Leaves

/-- What a parser came to: something was recognized in at least so many tokens, or an
expression was refused for its depth behind as many tokens as there are levels, or the
refusal is another one. -/
inductive Limited (levels least : Nat) (tokens : List Token) :
    Except Refusal (α × List Token) → Prop
  | read {value : α} {rest : List Token} (leaves : Leaves least tokens rest) :
      Limited levels least tokens (.ok (value, rest))
  | deep {rest : List Token} (leaves : Leaves levels tokens rest) :
      Limited levels least tokens (.error (.unexpected .expression rest))
  | refused {refusal : Refusal} (other : ∀ rest, refusal ≠ .unexpected .expression rest) :
      Limited levels least tokens (.error refusal)

namespace Limited

variable {outcome : Except Refusal (α × List Token)}

/-- A stricter limit on levels and tokens implies a weaker one. -/
theorem mono {levels' least' : Nat} (limited : Limited levels' least' tokens outcome)
    (shallower : levels ≤ levels') (fewer : least ≤ least') :
    Limited levels least tokens outcome := by
  cases limited with
  | read leaves => exact .read (leaves.mono fewer)
  | deep leaves => exact .deep (leaves.mono shallower)
  | refused other => exact .refused other

/-- A token in front opens a level. -/
theorem cons (token : Token) (limited : Limited levels least tokens outcome) :
    Limited (levels + 1) (least + 1) (token :: tokens) outcome := by
  cases limited with
  | read leaves => exact .read (leaves.cons token)
  | deep leaves => exact .deep (leaves.cons token)
  | refused other => exact .refused other

/-- Two parsers are limited in turn if the second is limited by what the first has left. -/
theorem bind {first : Parser α} {next : α → Parser β}
    (limited : Limited levels least tokens (first tokens))
    (following : ∀ value rest, Leaves least tokens rest →
      Limited (levels - least) (more - least) rest (next value rest)) :
    Limited levels more tokens ((first >>= next) tokens) := by
  change Limited _ _ _ (Parser.bind first next tokens)
  unfold Parser.bind
  generalize first tokens = result at limited
  cases limited with
  | read leaves =>
      rename_i value rest
      have limited := following value rest leaves
      dsimp only
      generalize next value rest = result at limited
      cases limited with
      | read leaves' => exact .read ((leaves.trans leaves').mono (by omega))
      | deep leaves' => exact .deep ((leaves.trans leaves').mono (by omega))
      | refused other => exact .refused other
  | deep leaves => exact .deep leaves
  | refused other => exact .refused other

/-- A terminal that may be missing. -/
theorem accepting {terminal : Terminal} {next : Bool → Parser α}
    (present : ∀ token rest, tokens = token :: rest →
      Limited levels (least - 1) rest (next true rest))
    (absent : Limited levels least tokens (next false tokens)) :
    Limited levels least tokens ((accept terminal >>= next) tokens) := by
  cases tokens with
  | nil => exact absent
  | cons token rest =>
      by_cases here : token.terminal = terminal
      · have accepted : accept terminal (token :: rest) = .ok (true, rest) := if_pos here
        have reads : (accept terminal >>= next) (token :: rest) = next true rest := by
          change Parser.bind _ _ _ = _
          rw [Parser.bind, accepted]
        rw [reads]
        exact ((present token rest rfl).cons token).mono (Nat.le_succ _) (by omega)
      · have accepted : accept terminal (token :: rest) = .ok (false, token :: rest) := if_neg here
        have reads : (accept terminal >>= next) (token :: rest) = next false (token :: rest) := by
          change Parser.bind _ _ _ = _
          rw [Parser.bind, accepted]
        rw [reads]
        exact absent

end Limited

/-- On no more than so many tokens a parser refuses depth only behind the levels. -/
def Parser.Limits (size levels : Nat) (parser : Parser α) : Prop :=
  ∀ tokens, tokens.length ≤ size → Limited levels 0 tokens (parser tokens)

/-! ### Lists -/

/-- Every item but the first has a comma in front of it, so that the steps suffice. -/
theorem listFrom_limited {item : Nat → Parser α}
    (each : ∀ position, (item position).Limits size levels) (fits : tokens.length ≤ size)
    (enough : tokens.length < steps) :
    Limited levels 0 tokens (listFrom item steps position tokens) := by
  induction steps generalizing position tokens with
  | zero => exact absurd enough (Nat.not_lt_zero _)
  | succ steps ih =>
      apply (each position tokens fits).bind
      intro first rest leaves
      have shorter := leaves.length_add_le
      apply Limited.accepting
      · rintro token others rfl
        rw [List.length_cons] at shorter
        apply (ih (by omega) (by omega)).bind
        exact fun _ _ _ => .read (.refl _)
      · exact .read (.refl _)

/-- Limits are kept by sequences of parsers. -/
theorem limits_sequential (size levels : Nat) : Sequential (Parser.Limits size levels) where
  pure _ tokens _ := .read (.refl tokens)
  refuse other _ _ := .refused fun _ same => other (Refusal.unexpected.inj same).1
  bind limits following tokens fits := (limits tokens fits).bind fun value rest leaves =>
    following value rest (Nat.le_trans leaves.length_add_le fits)
  look tokens _ := .read (.refl tokens)
  advance tokens _ := by
    cases tokens with
    | nil => exact .read (.refl [])
    | cons token tokens => exact .read (((Leaves.refl tokens).cons token).mono (Nat.zero_le _))
  accept terminal tokens _ := by
    cases tokens with
    | nil => exact .read (.refl [])
    | cons token tokens =>
        change Limited _ _ _ (if token.terminal = terminal then _ else _)
        split
        · exact .read (((Leaves.refl tokens).cons token).mono (Nat.zero_le _))
        · exact .read (.refl _)
  expect terminal tokens _ := by
    cases tokens with
    | nil => exact .refused nofun
    | cons token tokens =>
        change Limited _ _ _ (if token.terminal = terminal then _ else _)
        split
        · exact .read (((Leaves.refl tokens).cons token).mono (Nat.zero_le _))
        · exact .refused nofun
  list each tokens fits := listFrom_limited (fun _ => each) fits (Nat.lt_succ_self _)

/-! ### Expressions -/

/-- Reading a name uses a token. -/
theorem name_limited (tokens : List Token) : Limited levels 1 tokens (name tokens) := by
  cases tokens with
  | nil => exact .refused nofun
  | cons token tokens =>
      obtain ⟨terminal, lexeme, place⟩ := token
      cases terminal with
      | name s => exact .read ((Leaves.refl tokens).cons _)
      | keyword word =>
          change Limited _ _ _ ((if _ then advance else Parser.refuse _ : Parser String) _)
          split
          · exact .read ((Leaves.refl tokens).cons _)
          · exact .refused nofun
      | _ => exact .refused nofun

theorem columnName_limited (tokens : List Token) :
    Limited levels 1 tokens ((name >>= fun s => Pure.pure (Expr.column s)) tokens) :=
  (name_limited tokens).bind fun _ _ _ => .read (.refl _)

section

variable (inner : ∀ least, (expression least).Limits size levels) {left : Expr}

include inner

/-- A predicate starts with a word, whichever form it has. -/
theorem predicate_limited (fits : tokens.length ≤ size) :
    Limited levels 1 tokens (predicate expression left tokens) := by
  have closed := limits_sequential size levels
  have behind {parser : Parser Expr} (limits : parser.Limits size levels) (token : Token)
      (rest : List Token) (split : tokens = token :: rest) :
      Limited levels 0 rest (parser rest) := by
    apply limits rest
    rw [split, List.length_cons] at fits
    exact Nat.le_of_succ_le fits
  rw [predicate_eq]
  apply Limited.accepting
  · exact behind (closed.nullTest left)
  · apply Limited.accepting
    · exact behind (closed.continuation inner left true)
    · apply Limited.accepting
      · exact behind (closed.membership inner left false)
      · apply Limited.accepting
        · exact behind (closed.likeness inner left false)
        · apply Limited.accepting
          · exact behind (closed.range inner left false)
          · exact .refused nofun

/-- Every turn of the loop consumes a token, so that the steps suffice. -/
theorem operators_limited (fits : tokens.length ≤ size) (enough : tokens.length < steps) :
    Limited levels 0 tokens (operators expression least steps left tokens) := by
  induction steps generalizing left tokens with
  | zero => exact absurd enough (Nat.not_lt_zero _)
  | succ steps ih =>
      cases turn least tokens with
      | rests rests =>
          rw [operators_rest rests]
          exact .read (.refl tokens)
      | predicate starts loose =>
          rw [operators_predicated starts loose]
          apply (predicate_limited inner fits).bind
          intro predicated rest leaves
          have shorter := leaves.length_add_le
          exact (ih (by omega) (by omega)).mono (Nat.sub_le _ _) (Nat.le_refl _)
      | @operator token op denoted loose tokens =>
          rw [List.length_cons] at fits enough
          rw [operators_operator denoted loose]
          have right := inner (op.precedence + 1) tokens (by omega)
          refine (Limited.cons token (right.bind fun value rest leaves => ?_)).mono
            (Nat.le_succ levels) (Nat.zero_le (0 + 1))
          have shorter := leaves.length_add_le
          exact ih (by omega) (by omega)

/-- Reading the arguments of a call is limited as its parts are. -/
theorem argumentList_limits (same : operand.Limits size levels) (function : ScalarFunction) :
    (argumentList expression operand function).Limits size levels := by
  intro tokens fits
  unfold argumentList
  split
  · exact .read (.refl tokens)
  · exact listFrom_limited ((limits_sequential size levels).argument inner same function) fits
      (Nat.lt_succ_self _)

end

section

variable {word : Keyword} {lexeme : String} {place : Place}

/-- What an operand opens with its first token is read behind it. -/
theorem behind_limited (token : Token) (fits : tokens.length ≤ size) {parser : Parser Expr}
    (limits : parser.Limits size levels) :
    Limited (levels + 1) 1 (token :: tokens) (parser tokens) :=
  (limits tokens fits).cons token

/-- What starts with a keyword is limited, one level below. -/
theorem called_limited (inner : ∀ least, (expression least).Limits size levels)
    (fits : tokens.length ≤ size) (second : Terminal) :
    Limited (levels + 1) 1 (⟨.keyword word, lexeme, place⟩ :: tokens)
      ((match aggregateFunction? word, second with
        | some function, .symbol .leftParen => aggregateCall expression function
        | _, _ => name >>= fun s => Pure.pure (Expr.column s))
          (⟨.keyword word, lexeme, place⟩ :: tokens)) := by
  have closed := limits_sequential size levels
  cases aggregateFunction? word with
  | none => exact columnName_limited _
  | some function =>
      cases second with
      | symbol mark =>
          cases mark with
          | leftParen =>
              exact behind_limited _ fits (closed.bind (closed.expect _) fun _ =>
                closed.aggregated inner function)
          | _ => exact columnName_limited _
      | _ => exact columnName_limited _

/-- A call is limited, one level below its name. -/
theorem functionCall_limited (inner : ∀ least, (expression least).Limits size levels)
    (same : operand.Limits size levels) (fits : tokens.length ≤ size) (token : Token) (s : String) :
    Limited (levels + 1) 1 (token :: tokens)
      (functionCall expression operand s (token :: tokens)) := by
  have closed := limits_sequential size levels
  cases known : ScalarFunction.ofName? s with
  | none =>
      unfold functionCall
      rw [known]
      exact .refused nofun
  | some function =>
      rw [functionCall_eq known]
      exact behind_limited token fits (closed.bind (closed.expect _) fun _ =>
        closed.bind (argumentList_limits inner same function) (closed.counted function))

/-- A minus sign opens a level of its own. -/
theorem opposite_limits
    (negated : depth < maxNesting → (operandAt steps (depth + 1)).Limits size levels)
    (shut : maxNesting ≤ depth → levels = 0) :
    Parser.Limits size levels (if maxNesting ≤ depth then Parser.refuse .expression
      else operandAt steps (depth + 1) >>= fun operand =>
        Pure.pure (Expr.unary .minus operand)) := by
  have closed := limits_sequential size levels
  split
  · rename_i deep
    rw [shut deep]
    exact fun tokens _ => .deep (.refl tokens)
  · exact closed.bind (negated (by omega)) fun _ => closed.pure _

end

/-- Behind its first token an operand asks for operands and expressions that are limited
to one level less. -/
theorem operandAt_limited (inner : ∀ least, (expressionAt steps depth least).Limits size levels)
    (same : (operandAt steps depth).Limits size levels)
    (negated : depth < maxNesting → (operandAt steps (depth + 1)).Limits size levels)
    (shut : maxNesting ≤ depth → levels = 0) {tokens : List Token} (fits : tokens.length ≤ size)
    (token : Token) :
    Limited (levels + 1) 1 (token :: tokens) (operandAt (steps + 1) depth (token :: tokens)) := by
  have closed := limits_sequential size levels
  have leaf (leaf : Expr) : Limited (levels + 1) 1 (token :: tokens)
      (.ok (leaf, tokens) : Except Refusal (Expr × List Token)) :=
    .read ((Leaves.refl tokens).cons token)
  have column := @columnName_limited (levels + 1) (token :: tokens)
  obtain ⟨terminal, lexeme, place⟩ := token
  cases terminal with
  | integer | float | text => exact leaf _
  | keyword word =>
      cases word with
      | trueLiteral | falseLiteral | null => exact leaf _
      | not =>
          exact behind_limited _ fits (closed.bind (inner _) fun _ => closed.pure _)
      | _ => exact called_limited inner fits (front tokens)
  | symbol mark =>
      cases mark with
      | minus =>
          have opposite := behind_limited ⟨.symbol .minus, lexeme, place⟩ fits
            (opposite_limits negated shut)
          cases tokens with
          | nil => exact opposite
          | cons second tokens =>
              obtain ⟨terminal, lexeme', place'⟩ := second
              cases terminal with
              | integer | float =>
                  exact .read ((((Leaves.refl tokens).cons _).cons _).mono (Nat.le_add_left 1 1))
              | _ => exact opposite
      | leftParen =>
          exact behind_limited _ fits (closed.bind (inner 1) fun _ =>
            closed.bind (closed.expect _) fun _ => closed.pure _)
      | _ => exact column
  | name s =>
      change Limited _ _ _ ((if front tokens = .symbol .leftParen then _ else _ : Parser Expr) _)
      split
      · exact functionCall_limited inner same fits _ s
      · exact column
  | _ => exact column

/-- With two steps for each token and one for each rule in front of the first, expressions
and operands are limited to the levels that are left. -/
theorem nesting_limited (steps : Nat) :
    (∀ depth least tokens, 2 * tokens.length + 2 ≤ steps →
      Limited (maxNesting - depth) 0 tokens (expressionAt steps depth least tokens)) ∧
    ∀ depth tokens, 2 * tokens.length + 1 ≤ steps →
      Limited (maxNesting - depth + 1) 1 tokens (operandAt steps depth tokens) := by
  induction steps with
  | zero =>
      exact ⟨fun _ _ _ enough => absurd enough (Nat.not_succ_le_zero _),
        fun _ _ enough => absurd enough (Nat.not_succ_le_zero _)⟩
  | succ steps ih =>
      obtain ⟨expressions, operands⟩ := ih
      constructor
      · intro depth least tokens enough
        rw [expressionAt]
        split
        · rename_i deep
          rw [Nat.sub_eq_zero_of_le deep]
          exact .deep (.refl tokens)
        · rename_i within
          have operand :
              Limited (maxNesting - depth) 1 tokens (operandAt steps (depth + 1) tokens) :=
            (operands (depth + 1) tokens (by omega)).mono (by omega) (Nat.le_refl _)
          apply operand.bind
          intro left rest leaves
          have shorter := leaves.length_add_le
          exact operators_limited (fun least tokens fits =>
            expressions (depth + 1) least tokens (by omega)) (Nat.le_refl rest.length)
              (Nat.lt_succ_self _)
      · intro depth tokens enough
        cases tokens with
        | nil => exact columnName_limited []
        | cons token tokens =>
            rw [List.length_cons] at enough
            apply operandAt_limited _ _ _ _ (Nat.le_refl tokens.length)
            · exact fun least others fits => expressions depth least others (by omega)
            · exact fun others fits => (operands depth others (by omega)).mono (Nat.le_succ _)
                (Nat.zero_le _)
            · exact fun within others fits => (operands (depth + 1) others (by omega)).mono
                (by omega) (Nat.zero_le _)
            · exact Nat.sub_eq_zero_of_le

/-! ### Statements -/

theorem expression_limits (size : Nat) : Grammar.expression.Limits size maxNesting :=
  fun tokens _ => (nesting_limited _).1 0 1 tokens (Nat.le_refl _)

/-- The declarations of columns are limited by the tokens that follow. -/
theorem columns_limited (keyDeclared : Bool) (enough : tokens.length < steps) :
    Limited levels 0 tokens (columns steps keyDeclared tokens) := by
  induction steps generalizing keyDeclared tokens with
  | zero => exact absurd enough (Nat.not_lt_zero _)
  | succ steps ih =>
      have first := (limits_sequential tokens.length levels).column keyDeclared
      apply (first tokens (Nat.le_refl _)).bind
      intro column rest leaves
      have shorter := leaves.length_add_le
      apply Limited.accepting
      · rintro token others rfl
        rw [List.length_cons] at shorter
        apply (ih _ (by omega)).bind
        exact fun _ _ _ => .read (.refl _)
      · exact .read (.refl _)

/-- Checking a declaration uses no token. -/
theorem schemaOf_limits (table : String) (declared : List Column) :
    (schemaOf table declared).Limits size levels := by
  intro tokens _
  unfold schemaOf
  split
  · exact .read (.refl tokens)
  · exact .refused nofun

theorem onlyStatement_limits (size : Nat) : onlyStatement.Limits size maxNesting :=
  (limits_sequential size maxNesting).onlyStatement
    (fun _ _ => columns_limited false (Nat.lt_succ_self _)) schemaOf_limits (expression_limits size)

end Grammar

/-- An expression is refused for its depth only behind as many tokens as levels are
allowed. -/
theorem Statement.tokens_before_depth {tokens rest : List Token}
    (refused : ofTokens tokens = .error (.unexpected .expression rest)) :
    ∃ before, tokens = before ++ rest ∧ Grammar.maxNesting ≤ before.length := by
  have limited := Grammar.onlyStatement_limits tokens.length tokens (Nat.le_refl _)
  unfold ofTokens at refused
  split at refused
  · cases refused
  · rename_i refusal result
    cases refused
    rw [result] at limited
    cases limited with
    | deep leaves => exact leaves
    | refused other => exact absurd rfl (other rest)

end Relational
