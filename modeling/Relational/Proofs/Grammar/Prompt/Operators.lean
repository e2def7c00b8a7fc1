import Relational.Proofs.Grammar.Expression
import Relational.Proofs.Grammar.Parts
import Relational.Proofs.Grammar.Prompt.Ready

/-!
# Prompt reading of operators

The operators and predicates behind an operand are read promptly if the expressions
inside them are.  An expression may be completed to a column, unless it is nested too
deeply to be read at all, so everything here is proved of both kinds of expressions.
-/

namespace Relational

namespace Grammar

/-- What stands in front of the expressions that complete something: a column of that
name, or the negation of one. -/
def StartsOperand (terminal : Terminal) : Prop :=
  terminal = .keyword .not ∨ terminal = .name "x"

/-- A terminal at which an expression has ended, even one that is the operand of
`NOT`, whatever stands behind it. -/
structure Ends (least : Nat) (terminal : Terminal) : Prop where
  stops : Stops (min least comparisonPrecedence) terminal
  apart : terminal ≠ .symbol .leftParen

/-- Every version of an expression is refused, since the nesting is at its limit. -/
structure Shut {κ : Type} (expression : Nat → Parser Expr) (version : κ → Nat → Parser Expr) :
    Prop where
  refused : ∀ least tokens, expression least tokens = .error (.unexpected .expression tokens)
  versions : ∀ k least tokens, version k least tokens = .error (.unexpected .expression tokens)

/-- Expressions that are read promptly.  They offer something to complete what was
read with, or are nested too deeply. -/
structure Inner {κ : Type} (expression : Nat → Parser Expr) (version : κ → Nat → Parser Expr)
    (room : κ → Nat) : Prop where
  prompt : ∀ least tokens, PromptAt (expression least) (fun k => version k least) room StartsOperand
    (Ends least) tokens
  offers : (∀ least, Offers (fun k => version k least) room StartsOperand (Ends least)) ∨
    Shut expression version

variable {κ : Type} {expression : Nat → Parser Expr} {version : κ → Nat → Parser Expr}
  {room : κ → Nat} {ends : Terminal → Prop} {least lower : Nat} {terminal : Terminal}
  {tokens tail : List Token} {operand : Expr}

theorem Ends.mono (stops : Ends lower terminal)
    (le : min lower comparisonPrecedence ≤ min least comparisonPrecedence) : Ends least terminal :=
  ⟨stops.stops.mono le, stops.apart⟩

/-- A terminal that is no operator, predicate or parenthesis ends every expression. -/
theorem ends_of_none (predicate : ∀ second, startsPredicate terminal second = false)
    (operator : binaryOperator? terminal = none) (apart : terminal ≠ .symbol .leftParen) :
    Ends least terminal :=
  ⟨stops_of_none predicate operator, apart⟩

theorem ends_comma : Ends least (.symbol .comma) :=
  ends_of_none (fun _ => rfl) rfl nofun

theorem ends_rightParen : Ends least (.symbol .rightParen) :=
  ends_of_none (fun _ => rfl) rfl nofun

/-- Expressions that are read promptly and offer something are ready. -/
theorem Inner.ready (inner : Inner expression version room)
    (offers : ∀ least, Offers (fun k => version k least) room StartsOperand (Ends least))
    (least : Nat) :
    Ready (expression least) (fun k => version k least) room StartsOperand (Ends least) :=
  ⟨inner.prompt least, offers least⟩

/-! ### Predicates -/

/-- A test for null is ready. -/
theorem nullTest_ready (operand : Expr) (room : κ → Nat) (ends : Terminal → Prop) :
    Ready (nullTest operand) (fun _ => nullTest operand) room
      (fun first => first = .keyword .not ∨ first = .keyword .null) ends := by
  have null (negated : Bool) :=
    Ready.expected (.keyword .null) (Expr.isNull operand negated) rfl room ends
  unfold nullTest
  apply Ready.accepting (null true).prompt (null false) (fun _ => Nat.le_succ _) rfl
  · exact nofun
  · exact nofun

/-- A list of expressions beyond the limit is refused at its first one. -/
theorem Shut.list_refused (shut : Shut expression version) (tokens : List Token) :
    list (expression 1) tokens = .error (.unexpected .expression tokens) ∧
      ∀ k, list (version k 1) tokens = .error (.unexpected .expression tokens) :=
  ⟨bind_of_error (shut.refused 1 tokens), fun k => bind_of_error (shut.versions k 1 tokens)⟩

/-- A membership is prompt. -/
theorem membership_prompt (inner : Inner expression version room) (operand : Expr)
    (negated : Bool) (tokens : List Token) :
    PromptAt (membership expression operand negated)
      (fun k => membership (version k) operand negated) room (fun _ => True) ends tokens := by
  cases inner.offers with
  | inl offers =>
      have whole : Ready (membership expression operand negated)
          (fun k => membership (version k) operand negated) room (· = .symbol .leftParen) ends := by
        apply Ready.expecting _ rfl
        · exact StartsOperand
        · apply ((inner.ready offers 1).list ends_comma).bind
          · exact fun items =>
              Ready.expected (.symbol .rightParen) (Expr.isIn operand items negated) rfl room ends
          · exact fun _ here => here ▸ ⟨ends_rightParen, nofun⟩
      exact (whole.weaken (fun _ _ => trivial) fun _ ending => ending).prompt tokens
  | inr shut =>
      -- The items cannot be read, and the parenthesis in front of them can be added.
      have items : ∀ {e : Nat → Parser Expr} {token : Token} {tokens},
          token.terminal = .symbol .leftParen →
          list (e 1) tokens = .error (.unexpected .expression tokens) →
            membership e operand negated (token :: tokens) =
              .error (.unexpected .expression tokens) :=
        fun here refused => bind_of_ok (expect_cons here) (bind_of_error refused)
      have fails (k : κ) (tail : List Token) : ∃ wanted rest,
          membership (version k) operand negated tail = .error (.unexpected wanted rest) := by
        by_cases here : front tail = .symbol .leftParen
        · cases tail with
          | nil => cases here
          | cons token tail => exact ⟨_, _, items here ((shut.list_refused tail).2 k)⟩
        · exact ⟨_, _, bind_of_error (expect_of_ne here)⟩
      by_cases here : front tokens = .symbol .leftParen
      · cases tokens with
        | nil => cases here
        | cons token tokens => exact .excused (items here (shut.list_refused tokens).1)
      · apply PromptAt.stuck [] (bind_of_error (expect_of_ne here)) rfl
        apply Prospect.limited _ [⟨.symbol .leftParen, "", .start⟩] (Nat.le_refl _) rfl
        · exact fun k tail _ _ => items rfl ((shut.list_refused tail).2 k)
        · exact fun tail => .inl trivial
        · exact ⟨fun k tail _ => fails k tail, fun tail => .inl trivial⟩

/-- A test of a pattern is prompt. -/
theorem likeness_prompt (inner : Inner expression version room) (operand : Expr)
    (negated : Bool) (tokens : List Token) :
    PromptAt (likeness expression operand negated)
      (fun k => likeness (version k) operand negated) room StartsOperand
      (Ends (comparisonPrecedence + 1)) tokens :=
  (inner.prompt (comparisonPrecedence + 1) tokens).last
    fun pattern => Expr.like operand pattern negated

/-- A range is prompt. -/
theorem range_prompt (inner : Inner expression version room) (operand : Expr) (negated : Bool)
    (tokens : List Token) :
    PromptAt (range expression operand negated) (fun k => range (version k) operand negated) room
      StartsOperand (Ends (comparisonPrecedence + 1)) tokens := by
  cases inner.offers with
  | inl offers =>
      have bound := inner.ready offers (comparisonPrecedence + 1)
      apply Ready.prompt
      unfold range
      apply Ready.bind bound
      · intro low
        apply Ready.expecting
        · exact bound.last fun high => Expr.between operand low high negated
        · rfl
      · rintro _ rfl
        exact ⟨⟨nofun, by decide⟩, nofun⟩
  | inr shut => exact .excused (bind_of_error (shut.refused _ tokens))

/-- What continues a negated predicate is prompt. -/
theorem continuation_prompt (inner : Inner expression version room) (operand : Expr)
    (negated : Bool) (loose : least ≤ comparisonPrecedence)
    (continues : continuesPredicate (front tokens)) :
    PromptAt (continuation expression operand negated)
      (fun k => continuation (version k) operand negated) (fun k => room k + 1) (fun _ => False)
      (Ends least) tokens := by
  have narrow : ∀ terminal, Ends least terminal → Ends (comparisonPrecedence + 1) terminal :=
    fun _ ending => ending.mono (by omega)
  cases tokens with
  | nil => cases continues
  | cons token tokens =>
      obtain ⟨terminal, lexeme, place⟩ := token
      change continuesPredicate terminal at continues
      cases terminal with
      | keyword word =>
          cases word with
          | «in» =>
              apply (membership_prompt inner operand negated tokens).shift rfl
              · exact fun _ _ _ _ => rfl
              · exact fun _ => Nat.le_refl _
              · rfl
              · exact .inr nofun
          | like =>
              apply ((likeness_prompt inner operand negated tokens).weaken (fun _ => Nat.le_refl _)
                (fun _ opening => opening) narrow).shift rfl
              · exact fun _ _ _ _ => rfl
              · exact fun _ => Nat.le_refl _
              · rfl
              · exact .inr nofun
          | between =>
              apply ((range_prompt inner operand negated tokens).weaken (fun _ => Nat.le_refl _)
                (fun _ opening => opening) narrow).shift rfl
              · exact fun _ _ _ _ => rfl
              · exact fun _ => Nat.le_refl _
              · rfl
              · exact .inr nofun
          | _ => cases continues
      | _ => cases continues

/-- A predicate is prompt. -/
theorem predicate_prompt (inner : Inner expression version room) (operand : Expr)
    (loose : least ≤ comparisonPrecedence)
    (starts : startsPredicate (front tokens) (front tokens.tail)) :
    PromptAt (predicate expression operand) (fun k => predicate (version k) operand)
      (fun k => room k + 1) (fun _ => False) (Ends least) tokens := by
  -- Without `IS` or `NOT` in front the predicate is its own continuation.
  have plain : ∀ {e : Nat → Parser Expr} {tokens}, continuesPredicate (front tokens) →
      predicate e operand tokens = continuation e operand false tokens := by
    intro e tokens continues
    have apart (terminal : Terminal) (other : continuesPredicate terminal = false) :
        front tokens ≠ terminal := by
      rintro rfl
      rw [other] at continues
      cases continues
    rw [predicate_eq]
    exact bind_of_ok (accept_of_ne (apart _ rfl)) (bind_of_ok (accept_of_ne (apart _ rfl)) rfl)
  by_cases continues : continuesPredicate (front tokens)
  · apply (continuation_prompt inner operand false loose continues).congr (plain continues) _
      fun _ opening => opening
    intro k tokens' _ stands
    apply plain
    rcases stands with none | ⟨same, -⟩
    · exact none.elim
    · rwa [same]
  · cases tokens with
    | nil => cases starts
    | cons token tokens =>
        obtain ⟨terminal, lexeme, place⟩ := token
        cases terminal with
        | keyword word =>
            cases word with
            | is =>
                exact ((nullTest_ready operand room (Ends least)).prompt tokens).shift rfl
                  (fun _ _ _ _ => rfl) (fun _ => Nat.le_refl _) rfl (.inr nofun)
            | not =>
                apply (continuation_prompt inner operand true loose starts).behind
                  [⟨.keyword .not, lexeme, place⟩] rfl
                · exact fun _ _ _ _ => rfl
                · exact fun _ => Nat.le_succ _
                · exact .singleton rfl
                · rintro tail (none | ⟨same, -⟩)
                  · exact none.elim
                  · exact .inr ⟨rfl, fun _ => same⟩
            | _ => exact absurd starts continues
        | _ => exact absurd starts continues

/-! ### The loop -/

/-- Whether a predicate starts depends on the first terminal, and behind `NOT` on the
second. -/
theorem startsPredicate_same (same : front tail = front tokens)
    (second : front tokens = .keyword .not → front tail.tail = front tokens.tail) :
    startsPredicate (front tail) (front tail.tail) =
      startsPredicate (front tokens) (front tokens.tail) := by
  rw [same]
  by_cases negated : front tokens = .keyword .not
  · rw [second negated]
  · unfold startsPredicate
    split
    · rfl
    · exact absurd ‹_› negated
    · rfl

theorem Ends.rests (ending : Ends least (front tokens)) : Rests least tokens := by
  have stops := ending.stops.mono (Nat.min_le_left least comparisonPrecedence)
  exact ⟨stops.predicate _, stops.operator⟩

/-- Where the loop of operators rests, it rests at what may stand there instead. -/
theorem Rests.stands (rests : Rests least tokens) (stands : Stands (Ends least) tokens tail) :
    Rests least tail := by
  rcases stands with ending | ⟨same, second⟩
  · exact ending.rests
  · constructor
    · rw [startsPredicate_same same second]
      exact rests.predicate
    · rw [same]
      exact rests.operator

section

variable {steps : Nat} {left : Expr} {op : BinaryOperator} {token : Token}

/-- An operator introduces no name and is not `NOT`. -/
theorem plain_operator (denoted : binaryOperator? terminal = some op) :
    introducesName terminal = false ∧ terminal ≠ .keyword .not := by
  cases terminal with
  | keyword word =>
      cases word with
      | and | or => exact ⟨rfl, nofun⟩
      | _ => cases denoted
  | symbol symbol => exact ⟨rfl, nofun⟩
  | _ => cases denoted

/-! The versions of the loop differ in the expressions inside it and in the number of
its steps.  There is room for what the expressions have room for and for one token in
front of it, that of the operator. -/

/-- The loop of operators is complete without more. -/
theorem operators_offers (version : κ → Nat → Parser Expr) (room : κ → Nat) (least : Nat)
    (left : Expr) :
    Offers (fun k : κ × Nat => operators (version k.1) least k.2 left)
      (fun k => min (room k.1 + 1) k.2) (Ends least) (Ends least) := by
  apply Offers.done left _ fun _ ending => ending
  intro k tail enough ending
  obtain ⟨fewer, steps_eq⟩ := Nat.exists_eq_add_one.mpr (Nat.lt_min.mp enough).2
  rw [steps_eq]
  exact operators_rest ending.rests

/-- The loop of operators is prompt where it rests. -/
theorem resting_prompt (rests : Rests least tokens) :
    PromptAt (operators expression least (steps + 1) left)
      (fun k : κ × Nat => operators (version k.1) least k.2 left)
      (fun k => min (room k.1 + 1) k.2) (Ends least) (Ends least) tokens := by
  apply PromptAt.done (operators_rest rests) _ fun _ ending => ending
  intro k tail enough stands
  obtain ⟨fewer, steps_eq⟩ := Nat.exists_eq_add_one.mpr (Nat.lt_min.mp enough).2
  rw [steps_eq]
  exact operators_rest (rests.stands stands)

/-- A predicate is never empty, since a parenthesis may stand behind it but does not
start one. -/
theorem consumes_predicate (starts : startsPredicate (front tokens) (front tokens.tail)) :
    Consumes 1 (fun _ => False) (Ends least) tokens := by
  intro used stands
  cases used with
  | cons token used => exact Nat.le_add_left 1 used.length
  | nil =>
      rcases stands [⟨.symbol .rightParen, "", .start⟩] ends_rightParen with none | ⟨same, -⟩
      · exact none.elim
      · rw [← same] at starts
        cases starts

section

variable (inner : Inner expression version room)
  (further : ∀ left tokens, PromptAt (operators expression least steps left)
    (fun k : κ × Nat => operators (version k.1) least k.2 left)
    (fun k => min (room k.1 + 1) k.2) (Ends least) (Ends least) tokens)

include inner further

/-- The loop of operators is prompt where a predicate starts. -/
theorem predicated_prompt (starts : startsPredicate (front tokens) (front tokens.tail))
    (loose : least ≤ comparisonPrecedence) :
    PromptAt (operators expression least (steps + 1) left)
      (fun k : κ × Nat => operators (version k.1) least k.2 left)
      (fun k => min (room k.1 + 1) k.2) (Ends least) (Ends least) tokens := by
  have first := (predicate_prompt inner left loose starts).reindex (Prod.fst : κ × Nat → κ)
  have both : PromptAt (predicate expression left >>= operators expression least steps)
      (fun k : κ × Nat => predicate (version k.1) left >>= operators (version k.1) least (k.2 - 1))
      (fun k => min (room k.1 + 1) k.2) (fun _ => False) (Ends least) tokens := by
    apply first.bind_consuming
    · exact fun value rest _ => (further value rest).reindex fun k : κ × Nat => (k.1, k.2 - 1)
    · exact fun value _ =>
        (operators_offers version room least value).reindex fun k : κ × Nat => (k.1, k.2 - 1)
    · exact fun _ ending => ending
    · exact consumes_predicate starts
    · exact fun _ => ⟨Nat.min_le_left _ _, by dsimp only; omega⟩
  apply both.congr (operators_predicated starts loose) _ fun _ none => none.elim
  intro k tokens' enough stands
  obtain ⟨fewer, steps_eq⟩ := Nat.exists_eq_add_one.mpr (Nat.lt_min.mp enough).2
  rcases stands with none | ⟨same, second⟩
  · exact none.elim
  · rw [← startsPredicate_same same second] at starts
    rw [steps_eq]
    exact operators_predicated starts loose

/-- The loop of operators is prompt where an operator stands. -/
theorem operated_prompt (denoted : binaryOperator? token.terminal = some op)
    (loose : least ≤ op.precedence) :
    PromptAt (operators expression least (steps + 1) left)
      (fun k : κ × Nat => operators (version k.1) least k.2 left)
      (fun k => min (room k.1 + 1) k.2) (Ends least) (Ends least) (token :: tokens) := by
  have first := (inner.prompt (op.precedence + 1) tokens).reindex (Prod.fst : κ × Nat → κ)
  have both : PromptAt
      (expression (op.precedence + 1) >>= fun right =>
        operators expression least steps (.binary op left right))
      (fun k : κ × Nat => version k.1 (op.precedence + 1) >>= fun right =>
        operators (version k.1) least (k.2 - 1) (.binary op left right))
      (fun k => min (room k.1) (k.2 - 1)) StartsOperand (Ends least) tokens := by
    apply first.bind
    · exact fun value rest _ => (further _ rest).reindex fun k : κ × Nat => (k.1, k.2 - 1)
    · exact fun value =>
        (operators_offers version room least _).reindex fun k : κ × Nat => (k.1, k.2 - 1)
    · exact fun _ ending => ending.mono (by omega)
    · exact fun _ => ⟨Nat.min_le_left _ _, by dsimp only; omega⟩
  apply both.shift (operators_operator denoted loose)
  · intro k tokens' enough _
    obtain ⟨fewer, steps_eq⟩ := Nat.exists_eq_add_one.mpr (Nat.lt_min.mp enough).2
    rw [steps_eq]
    exact operators_operator denoted loose
  · intro k
    omega
  · exact (plain_operator denoted).1
  · exact .inr (plain_operator denoted).2

end

/-- The loop of operators is prompt everywhere, by induction on its steps. -/
theorem operators_prompt (inner : Inner expression version room) (least steps : Nat) (left : Expr)
    (tokens : List Token) :
    PromptAt (operators expression least steps left)
      (fun k : κ × Nat => operators (version k.1) least k.2 left)
      (fun k => min (room k.1 + 1) k.2) (Ends least) (Ends least) tokens := by
  induction steps generalizing left tokens with
  | zero => exact .excused rfl
  | succ steps ih =>
      cases turn least tokens with
      | rests rests => exact resting_prompt rests
      | predicate starts loose => exact predicated_prompt inner ih starts loose
      | operator denoted loose => exact operated_prompt inner ih denoted loose

/-- The loop takes as many steps as tokens follow, and one more. -/
theorem operators_ready (inner : Inner expression version room) (least : Nat) (left : Expr) :
    Ready (fun tokens => operators expression least (tokens.length + 1) left tokens)
      (fun k tokens => operators (version k) least (tokens.length + 1) left tokens)
      (fun k => room k + 1) (Ends least) (Ends least) where
  prompt tokens := .sized (fun k steps => operators (version k) least steps left)
    (operators_prompt inner least (tokens.length + 1) left tokens) rfl
  offers := (operators_offers version room least left).sized fun k steps =>
    operators (version k) least steps left

end

end Grammar

end Relational
