import Relational.Proofs.Grammar.Prompt.Call

/-!
# Prompt reading of expressions

Expressions and operands are read promptly at every level of nesting and with any
number of steps.  A version with so many steps has room for half as many tokens, since
an operand needs one step and an expression two.  A whole expression derives its steps
from the tokens that follow, which always leaves it enough room.
-/

namespace Relational

namespace Grammar

variable {steps depth least : Nat} {tokens : List Token} {token : Token}

/-- An expression is read promptly.  A version with so many steps has room for half as
many tokens. -/
abbrev ExpressionPrompt (steps depth least : Nat) (tokens : List Token) : Prop :=
  PromptAt (expressionAt steps depth least) (fun k => expressionAt k depth least) (· / 2)
    StartsOperand (Ends least) tokens

/-! ### Offers -/

/-- Every operand can be completed by a column. -/
theorem operandAt_offers (depth : Nat) :
    Offers (fun k => operandAt k depth) (fun k => (k + 1) / 2) StartsOperand
      (Ends comparisonPrecedence) := by
  apply Offers.reading [⟨.name "x", "", .start⟩] (.column "x") _ fun _ _ => .inr rfl
  intro k tail enough ending
  change 1 < (k + 1) / 2 at enough
  obtain ⟨fewer, rfl⟩ : ∃ fewer, k = fewer + 1 := Nat.exists_eq_add_one.mpr (by omega)
  have apart := ending.apart
  rw [front_eq] at apart
  exact operandAt_column "x" apart _ tail rfl rfl

/-- A name is a whole expression in front of what ends one. -/
theorem expressionAt_name (within : depth < maxNesting) (s lexeme : String) (place : Place)
    (ending : Ends least (front tokens)) (steps : Nat) :
    expressionAt (steps + 2) depth least (⟨.name s, lexeme, place⟩ :: tokens) =
      .ok (.column s, tokens) := by
  have apart := ending.apart
  have stops := ending.stops.mono (Nat.min_le_left least comparisonPrecedence)
  rw [front_eq] at apart stops
  exact expressionAt_operand within stops (operandAt_column s apart) [⟨.name s, lexeme, place⟩]
    tokens rfl rfl

/-- Every expression within the limit can be completed by a column. -/
theorem expressionAt_offers (within : depth < maxNesting) (least : Nat) :
    Offers (fun k => expressionAt k depth least) (· / 2) StartsOperand (Ends least) := by
  apply Offers.reading [⟨.name "x", "", .start⟩] (.column "x") _ fun _ _ => .inr rfl
  intro k tail enough ending
  change 1 < k / 2 at enough
  obtain ⟨fewer, rfl⟩ : ∃ fewer, k = fewer + 2 := Nat.exists_eq_add_of_le' (by omega)
  exact expressionAt_name within "x" "" .start ending fewer

/-- Beyond the limit every expression is refused. -/
theorem expressionAt_shut (deep : maxNesting ≤ depth) :
    Shut (expressionAt steps depth) fun k => expressionAt k depth := by
  have refused (steps least : Nat) (tokens : List Token) :
      expressionAt steps depth least tokens = .error (.unexpected .expression tokens) := by
    cases steps with
    | zero => rfl
    | succ steps =>
        rw [expressionAt, if_pos deep]
        rfl
  exact ⟨refused steps, refused⟩

/-! ### Operands -/

section

variable {κ : Type} {expression : Nat → Parser Expr} {version : κ → Nat → Parser Expr}
  {room : κ → Nat}

/-- The argument of an aggregate is ready if expressions are. -/
theorem aggregatedArgument_ready (inner : ∀ least, Ready (expression least)
      (fun k => version k least) room StartsOperand (Ends least)) (function : AggregateFunction)
    (ends : Terminal → Prop) :
    Ready (aggregatedArgument expression function)
      (fun k => aggregatedArgument (version k) function) room
      (fun first => first = .keyword .distinct ∨ StartsOperand first) ends := by
  have argument (distinct : Bool) : Ready
      (expression 1 >>= fun argument => expect (.symbol .rightParen) >>= fun _ =>
        Pure.pure (Expr.aggregate function (some argument) distinct))
      (fun k => version k 1 >>= fun argument => expect (.symbol .rightParen) >>= fun _ =>
        Pure.pure (Expr.aggregate function (some argument) distinct)) room StartsOperand ends := by
    apply (inner 1).bind fun argument => .expected _ _ rfl room ends
    exact fun _ here => here ▸ ends_rightParen
  apply Ready.accepting
  · exact (argument true).prompt
  · exact argument false
  · exact fun _ => Nat.le_succ _
  · rfl
  · exact nofun
  · rintro (none | none) <;> cases none

/-- The argument of an aggregate is refused if every expression is. -/
theorem aggregatedArgument_refused (function : AggregateFunction)
    (refused : ∀ tokens, expression 1 tokens = .error (.unexpected .expression tokens))
    (tokens : List Token) : ∃ rest,
      aggregatedArgument expression function tokens = .error (.unexpected .expression rest) := by
  by_cases here : front tokens = .keyword .distinct
  · cases tokens with
    | nil => cases here
    | cons token tokens =>
        exact ⟨tokens, bind_of_ok (accept_cons here) (bind_of_error (refused tokens))⟩
  · exact ⟨tokens, bind_of_ok (accept_of_ne here) (bind_of_error (refused tokens))⟩

/-- What an aggregate has in its parentheses is prompt. -/
theorem aggregated_prompt (inner : Inner expression version room) (function : AggregateFunction)
    (ends : Terminal → Prop) (tokens : List Token) :
    PromptAt (aggregated expression function) (fun k => aggregated (version k) function) room
      (fun first => first = .symbol .star ∨ first = .keyword .distinct ∨ StartsOperand first) ends
      tokens := by
  have rows :=
    Ready.expected (.symbol .rightParen) (Expr.aggregate function none false) rfl room ends
  unfold aggregated
  by_cases counts : function = .count
  · rw [acceptIf, if_pos (decide_eq_true counts)]
    cases inner.offers with
    | inl offers =>
        have argument := aggregatedArgument_ready (inner.ready offers) function ends
        apply Ready.prompt
        apply Ready.accepting
        · exact rows.prompt
        · exact argument
        · exact fun _ => Nat.le_succ _
        · rfl
        · rintro ⟨⟩
        · rintro (none | none | none) <;> cases none
    | inr shut =>
        by_cases here : front tokens = .symbol .star
        · cases tokens with
          | nil => cases here
          | cons token tokens =>
              exact (rows.prompt tokens).shift (bind_of_ok (accept_cons here) rfl)
                (fun _ _ _ _ => bind_of_ok (accept_cons here) rfl) (fun _ => Nat.le_succ _)
                (by rw [show token.terminal = _ from here]; rfl) (.inl (.inl here))
        · obtain ⟨rest, refused⟩ :=
            aggregatedArgument_refused function (shut.refused 1) tokens
          exact .excused (bind_of_ok (accept_of_ne here) refused)
  · rw [acceptIf, if_neg (by simp [counts])]
    cases inner.offers with
    | inl offers =>
        have argument := aggregatedArgument_ready (inner.ready offers) function ends
        exact (argument.prompt tokens).weaken (fun _ => Nat.le_refl _) (fun _ => .inr)
          fun _ ending => ending
    | inr shut =>
        obtain ⟨rest, refused⟩ := aggregatedArgument_refused function (shut.refused 1) tokens
        exact .excused refused

end

/-- Behind its first token an operand goes on with one step less. -/
theorem operandAt_shift {parser : Parser Expr} {again : Nat → Parser Expr} {room : Nat → Nat}
    {leads : Terminal → Prop}
    (prompt : PromptAt parser again room leads (Ends comparisonPrecedence) tokens)
    (same : operandAt (steps + 1) depth (token :: tokens) = parser tokens)
    (alike : ∀ k tokens', Stands leads tokens tokens' →
      operandAt (k + 1) depth (token :: tokens') = again k tokens')
    (fits : ∀ k, k / 2 ≤ room k) (plain : introducesName token.terminal = false)
    (leading : StartsOperand token.terminal ∨ token.terminal ≠ .keyword .not) :
    OperandPrompt (steps + 1) depth (token :: tokens) :=
  operandAt_behind [token] prompt same alike fits (List.cons_ne_nil _ _) (.singleton plain)
    fun _ _ => leading.imp id fun different => ⟨rfl, fun same => absurd same different⟩

/-- An operand that is one token. -/
theorem leaf_prompt (leaf : Expr)
    (same : ∀ k tokens', Stands (Ends comparisonPrecedence) tokens tokens' →
      operandAt (k + 1) depth (token :: tokens') = .ok (leaf, tokens'))
    (plain : introducesName token.terminal = false) (positive : token.terminal ≠ .keyword .not) :
    OperandPrompt (steps + 1) depth (token :: tokens) :=
  operandAt_shift ((Ready.pure leaf (· / 2) (Ends comparisonPrecedence)).prompt tokens)
    (same steps tokens (.refl _ _)) same (fun _ => Nat.le_refl _) plain (.inr positive)

/-- What may stand in place of tokens without a parenthesis in front has none, either. -/
theorem apart_of_stands {tail : List Token} (apart : front tokens ≠ .symbol .leftParen)
    (stands : Stands (Ends least) tokens tail) : front tail ≠ .symbol .leftParen := by
  rcases stands with ending | ⟨same, -⟩
  · exact ending.apart
  · rwa [same]

/-- The literal that a minus sign and a number form. -/
def negated? : Terminal → Option Expr
  | .integer n => some (.literal (.integer (-n)))
  | .float x => some (.literal (.float (-x)))
  | _ => none

/-- A minus sign is part of a number behind it, or changes the sign of an operand. -/
theorem operandAt_minus_eq (steps depth : Nat) (lexeme : String) (place : Place)
    (tokens : List Token) :
    operandAt (steps + 1) depth (⟨.symbol .minus, lexeme, place⟩ :: tokens) =
      (match negated? (front tokens) with
      | some number => advance >>= fun _ => Pure.pure number
      | none =>
        if maxNesting ≤ depth then Parser.refuse .expression
        else operandAt steps (depth + 1) >>= fun operand => Pure.pure (.unary .minus operand))
        tokens := by
  cases tokens with
  | nil => rfl
  | cons token tokens =>
      obtain ⟨terminal, lexeme', place'⟩ := token
      cases terminal <;> rfl

/-- A number introduces no name and is not `NOT`. -/
theorem plain_of_negated {terminal : Terminal} {number : Expr}
    (negated : negated? terminal = some number) :
    introducesName terminal = false ∧ terminal ≠ .keyword .not := by
  cases terminal with
  | integer n => exact ⟨rfl, nofun⟩
  | float x => exact ⟨rfl, nofun⟩
  | _ => cases negated

/-- A keyword that is neither a literal nor `NOT`. -/
def IsWord (word : Keyword) : Prop :=
  word ≠ .trueLiteral ∧ word ≠ .falseLiteral ∧ word ≠ .null ∧ word ≠ .not

/-- A keyword is an aggregate if a parenthesis follows, and a name if it may be one. -/
theorem operandAt_keyword {word : Keyword} (plain : IsWord word) (steps depth : Nat)
    (lexeme : String) (place : Place) (tokens : List Token) :
    operandAt (steps + 1) depth (⟨.keyword word, lexeme, place⟩ :: tokens) =
      (match aggregateFunction? word, front tokens with
      | some function, .symbol .leftParen => aggregateCall (expressionAt steps depth) function
      | _, _ => name >>= fun column => Pure.pure (.column column))
        (⟨.keyword word, lexeme, place⟩ :: tokens) := by
  obtain ⟨yes, no, null, positive⟩ := plain
  cases word with
  | trueLiteral => exact absurd rfl yes
  | falseLiteral => exact absurd rfl no
  | null => exact absurd rfl null
  | not => exact absurd rfl positive
  | _ => rfl

/-- A keyword that is no aggregate here is read as the name of a column. -/
theorem operandAt_word {word : Keyword} {lexeme : String} {place : Place} (plain : IsWord word)
    (apart : front tokens = .symbol .leftParen → aggregateFunction? word = none) :
    operandAt (steps + 1) depth (⟨.keyword word, lexeme, place⟩ :: tokens) =
      (name >>= fun column => Pure.pure (.column column))
        (⟨.keyword word, lexeme, place⟩ :: tokens) := by
  rw [operandAt_keyword plain]
  cases aggregate : aggregateFunction? word with
  | none => rfl
  | some function =>
      rw [aggregate] at apart
      cases first : front tokens with
      | symbol symbol =>
          cases symbol with
          | leftParen => cases apart first
          | _ => rfl
      | _ => rfl

/-- The word of an aggregate function introduces no name. -/
theorem plain_of_aggregate {word : Keyword} {function : AggregateFunction}
    (aggregate : aggregateFunction? word = some function) :
    introducesName (.keyword word) = false := by
  cases word with
  | into | table | on | references => cases aggregate
  | _ => rfl

section

variable (inner : Inner (expressionAt steps depth) (fun k => expressionAt k depth) (· / 2))
  (operands : ∀ depth tokens, OperandPrompt steps depth tokens)

include operands in
/-- An operand behind a minus sign is prompt. -/
theorem minus_prompt (lexeme : String) (place : Place) (tokens : List Token) :
    OperandPrompt (steps + 1) depth (⟨.symbol .minus, lexeme, place⟩ :: tokens) := by
  cases number : negated? (front tokens) with
  | some literal =>
      have read : ∀ {k tokens'}, front tokens' = front tokens →
          operandAt (k + 1) depth (⟨.symbol .minus, lexeme, place⟩ :: tokens') =
            (advance >>= fun _ => Pure.pure literal) tokens' := by
        intro k tokens' same
        rw [operandAt_minus_eq, same, number]
      cases tokens with
      | nil => cases number
      | cons token tokens =>
          have plain := plain_of_negated number
          apply operandAt_shift (.advanced literal plain.1 plain.2 (· / 2) _) (read rfl)
          · rintro k tokens' (none | ⟨same, -⟩)
            · exact none.elim
            · exact read same
          · exact fun _ => Nat.le_refl _
          · rfl
          · exact .inr nofun
  | none =>
      by_cases deep : maxNesting ≤ depth
      · have refused : operandAt (steps + 1) depth (⟨.symbol .minus, lexeme, place⟩ :: tokens) =
            .error (.unexpected .expression tokens) := by
          rw [operandAt_minus_eq, number]
          dsimp only
          rw [if_pos deep]
          rfl
        exact .excused refused
      · have read : ∀ {k tokens'}, negated? (front tokens') = none →
            operandAt (k + 1) depth (⟨.symbol .minus, lexeme, place⟩ :: tokens') =
              (operandAt k (depth + 1) >>= fun operand => Pure.pure (.unary .minus operand))
                tokens' := by
          intro k tokens' none
          rw [operandAt_minus_eq, none]
          dsimp only
          rw [if_neg deep]
        apply operandAt_shift ((operands (depth + 1) tokens).last (.unary .minus)) (read number)
        · rintro k tokens' ((opening | opening) | ⟨same, -⟩)
          · exact read (by rw [opening]; rfl)
          · exact read (by rw [opening]; rfl)
          · exact read (by rw [same, number])
        · intro k
          omega
        · rfl
        · exact .inr nofun

include inner operands in
/-- An operand that starts with a name is prompt. -/
theorem named_prompt (s lexeme : String) (place : Place) (tokens : List Token) :
    OperandPrompt (steps + 1) depth (⟨.name s, lexeme, place⟩ :: tokens) := by
  by_cases call : front tokens = .symbol .leftParen
  · cases tokens with
    | nil => cases call
    | cons opening tokens =>
        obtain ⟨terminal, lexeme', place'⟩ := opening
        cases call
        cases known : ScalarFunction.ofName? s with
        | none =>
            apply PromptAt.refused _ (operandAt_offers depth)
            · exact .functionName
            · rw [operandAt_name, front, if_pos rfl, functionCall, known]
              rfl
        | some function =>
            have amounts (tokens : List Token) : PromptAt (operandAt steps depth)
                (fun k => operandAt k depth) (· / 2) StartsOperand (Ends comparisonPrecedence)
                tokens :=
              (operands depth tokens).weaken (fun k => by omega) (fun _ opening => opening)
                fun _ ending => ending
            cases number : function.arity with
            | zero => exact call_none_prompt inner amounts known number
            | succ more => exact call_some_prompt inner amounts known number
  · apply leaf_prompt (.column s) _ rfl
    · rintro ⟨⟩
    intro k tokens' stands
    rw [operandAt_name, if_neg (apart_of_stands call stands)]
    rfl

include inner in
/-- An operand that starts with the word of an aggregate function is prompt. -/
theorem aggregate_prompt {word : Keyword} (plain : IsWord word) {function : AggregateFunction}
    (aggregate : aggregateFunction? word = some function) (lexeme lexeme' : String)
    (place place' : Place) (tokens : List Token) :
    OperandPrompt (steps + 1) depth
      (⟨.keyword word, lexeme, place⟩ :: ⟨.symbol .leftParen, lexeme', place'⟩ :: tokens) := by
  have read (k : Nat) (tokens' : List Token) : operandAt (k + 1) depth
      (⟨.keyword word, lexeme, place⟩ :: ⟨.symbol .leftParen, lexeme', place'⟩ :: tokens') =
        aggregated (expressionAt k depth) function tokens' := by
    rw [operandAt_keyword plain, aggregate]
    rfl
  apply operandAt_behind [⟨.keyword word, lexeme, place⟩, ⟨.symbol .leftParen, lexeme', place'⟩]
    (aggregated_prompt inner function _ tokens) (read steps tokens)
  · exact fun k tokens' _ => read k tokens'
  · exact fun _ => Nat.le_refl _
  · exact List.cons_ne_nil _ _
  · exact (Settled.singleton (plain_of_aggregate aggregate)).append (.singleton rfl)
  · exact fun _ _ => .inr ⟨rfl, fun same => absurd (Terminal.keyword.inj same) plain.2.2.2⟩

include inner in
/-- An operand that starts with a keyword is prompt. -/
theorem word_prompt {word : Keyword} (plain : IsWord word) (lexeme : String) (place : Place)
    (tokens : List Token) :
    OperandPrompt (steps + 1) depth (⟨.keyword word, lexeme, place⟩ :: tokens) := by
  by_cases column : front tokens = .symbol .leftParen → aggregateFunction? word = none
  · by_cases named : word.mayBeName && !(word.isAggregate && front tokens == .symbol .leftParen)
    · have mayBe : word.mayBeName := (Bool.and_eq_true_iff.mp named).1
      apply leaf_prompt (.column lexeme)
      · rintro k tokens' (ending | ⟨same, -⟩)
        · have apart := ending.apart
          rw [operandAt_word plain fun opens => absurd opens apart]
          apply bind_of_ok ((name_keyword word lexeme place tokens').trans (if_pos _)) rfl
          rw [mayBe, beq_false_of_ne apart, Bool.and_false]
          rfl
        · rw [← same] at column named
          rw [operandAt_word plain column]
          exact bind_of_ok ((name_keyword word lexeme place tokens').trans (if_pos named)) rfl
      · exact plain_of_mayBeName mayBe
      · exact fun same => absurd (Terminal.keyword.inj same) plain.2.2.2
    · apply PromptAt.refused _ (operandAt_offers depth)
      · exact .terminal (.name "")
      · rw [operandAt_word plain column]
        exact bind_of_error ((name_keyword word lexeme place tokens).trans (if_neg named))
  · push Not at column
    obtain ⟨opens, some⟩ := column
    obtain ⟨function, aggregate⟩ := Option.ne_none_iff_exists'.mp some
    cases tokens with
    | nil => cases opens
    | cons opening tokens =>
        obtain ⟨terminal, lexeme', place'⟩ := opening
        cases opens
        exact aggregate_prompt inner plain aggregate lexeme lexeme' place place' tokens

include inner in
/-- An operand in parentheses is prompt. -/
theorem enclosed_prompt (lexeme : String) (place : Place) (tokens : List Token) :
    OperandPrompt (steps + 1) depth
      (⟨.symbol .leftParen, lexeme, place⟩ :: tokens) := by
  have closed (value : Expr) := Ready.expected (.symbol .rightParen) value rfl
    ((· / 2) : Nat → Nat) (Ends comparisonPrecedence)
  have both := (inner.prompt 1 tokens).bind (fun value rest _ => (closed value).prompt rest)
    (fun value => (closed value).offers)
    (fun _ here => here ▸ ends_rightParen)
    fun _ => ⟨Nat.le_refl _, Nat.le_refl _⟩
  apply operandAt_shift both rfl
  · exact fun _ _ _ => rfl
  · exact fun _ => Nat.le_refl _
  · rfl
  · exact .inr nofun

include inner operands in
/-- Every operand is prompt if what is below it is. -/
theorem operandAt_prompt (tokens : List Token) :
    OperandPrompt (steps + 1) depth tokens := by
  cases tokens with
  | nil => exact .refused rfl (operandAt_offers depth)
  | cons token tokens =>
      obtain ⟨terminal, lexeme, place⟩ := token
      cases terminal with
      | integer n => exact leaf_prompt (.literal (.integer n)) (fun _ _ _ => rfl) rfl nofun
      | float x => exact leaf_prompt (.literal (.float x)) (fun _ _ _ => rfl) rfl nofun
      | text s => exact leaf_prompt (.literal (.text s)) (fun _ _ _ => rfl) rfl nofun
      | endOfInput => exact .refused rfl (operandAt_offers depth)
      | name s => exact named_prompt inner operands s lexeme place tokens
      | symbol symbol =>
          cases symbol with
          | minus => exact minus_prompt operands lexeme place tokens
          | leftParen => exact enclosed_prompt inner lexeme place tokens
          | _ => exact .refused rfl (operandAt_offers depth)
      | keyword word =>
          cases word with
          | trueLiteral => exact leaf_prompt (.literal (.boolean true)) (fun _ _ _ => rfl) rfl nofun
          | falseLiteral =>
              exact leaf_prompt (.literal (.boolean false)) (fun _ _ _ => rfl) rfl nofun
          | null => exact leaf_prompt (.literal .null) (fun _ _ _ => rfl) rfl nofun
          | not =>
              have negation := (inner.prompt comparisonPrecedence tokens).last (Expr.unary .not)
              apply operandAt_shift negation rfl
              · exact fun _ _ _ => rfl
              · exact fun _ => Nat.le_refl _
              · rfl
              · exact .inl (.inl rfl)
          | _ =>
              apply word_prompt inner
              exact ⟨nofun, nofun, nofun, nofun⟩

end

/-! ### Expressions -/

section

variable (expressions : ∀ depth least tokens, ExpressionPrompt steps depth least tokens)
  (operands : ∀ depth tokens, OperandPrompt steps depth tokens)

include expressions in
/-- What is inside an expression is read promptly if all below it is. -/
theorem inner_at (depth : Nat) :
    Inner (expressionAt steps depth) (fun k => expressionAt k depth) (· / 2) := by
  refine ⟨expressions depth, ?_⟩
  by_cases within : depth < maxNesting
  · exact .inl (expressionAt_offers within)
  · exact .inr (expressionAt_shut (Nat.le_of_not_lt within))

include expressions operands in
/-- Every expression is prompt if its operands and what is below them are. -/
theorem expressionAt_prompt (depth least : Nat) (tokens : List Token) :
    ExpressionPrompt (steps + 1) depth least tokens := by
  by_cases deep : maxNesting ≤ depth
  · exact .excused ((expressionAt_shut deep).refused least tokens)
  · have unfolded (k : Nat) : expressionAt (k + 1) depth least = operandAt k (depth + 1) >>=
        fun left tokens =>
          operators (expressionAt k (depth + 1)) least (tokens.length + 1) left tokens := by
      rw [expressionAt, if_neg deep]
    have loop := operators_ready (inner_at expressions (depth + 1)) least
    have both : PromptAt
        (operandAt steps (depth + 1) >>= fun left tokens =>
          operators (expressionAt steps (depth + 1)) least (tokens.length + 1) left tokens)
        (fun k => operandAt k (depth + 1) >>= fun left tokens =>
          operators (expressionAt k (depth + 1)) least (tokens.length + 1) left tokens)
        (fun k => (k + 1) / 2) StartsOperand (Ends least) tokens := by
      apply (operands (depth + 1) tokens).bind
      · exact fun left rest _ => (loop left).prompt rest
      · exact fun left => (loop left).offers
      · exact fun _ ending => ending.mono (by omega)
      · exact fun k => ⟨Nat.le_refl _, by omega⟩
    apply (both.reindex (· - 1)).transfer (congrFun (unfolded steps) tokens) _
      (fun _ opening => opening) fun _ ending => ending
    intro k used enough tail _
    obtain ⟨fewer, rfl⟩ : ∃ fewer, k = fewer + 1 := Nat.exists_eq_add_one.mpr (by omega)
    exact ⟨fewer + 1, enough, congrFun (unfolded fewer) _⟩

end

/-- Expressions and operands are prompt at every depth, by induction on the steps. -/
theorem nesting_prompt (steps : Nat) :
    (∀ depth least tokens, ExpressionPrompt steps depth least tokens) ∧
    ∀ depth tokens, OperandPrompt steps depth tokens := by
  induction steps with
  | zero => exact ⟨fun _ _ _ => .excused rfl, fun _ _ => .excused rfl⟩
  | succ steps ih =>
      obtain ⟨expressions, operands⟩ := ih
      exact ⟨expressionAt_prompt expressions operands,
        fun depth => operandAt_prompt (inner_at expressions depth) operands⟩

/-- A whole expression has room for any number of tokens. -/
theorem expression_ready {κ : Type} (room : κ → Nat) :
    Ready expression (fun _ => expression) room StartsOperand (Ends 1) where
  prompt tokens := by
    have prompt := (nesting_prompt (2 * tokens.length + 2)).1 0 1 tokens
    apply prompt.transfer (rfl : expression tokens = _) _ (fun _ opening => opening)
      fun _ ending => ending
    intro k used _ tail _
    refine ⟨2 * (used ++ tail).length + 2, ?_, rfl⟩
    rw [List.length_append]
    omega
  offers := by
    obtain ⟨extra, outcome, innocent, reads, leads⟩ := expressionAt_offers (Nat.zero_lt_succ 127) 1
    refine ⟨extra, outcome, innocent, ?_, leads⟩
    intro k tail _ ending
    apply reads (2 * (extra ++ tail).length + 2) tail _ ending
    change extra.length < (2 * (extra ++ tail).length + 2) / 2
    rw [List.length_append]
    omega

end Grammar

end Relational
