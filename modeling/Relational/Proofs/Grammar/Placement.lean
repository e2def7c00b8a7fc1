import Relational.Proofs.Grammar.Closure
import Relational.Proofs.Token.Separation

/-!
# Parsers do not see places

A parser decides by the terminals of the tokens, and takes names from what was
written, but never asks where in a text a token stands.  Tokens that differ in their
places only are therefore read as the same statement, or refused for the same
reason at the same token.
-/

namespace Relational

open Grammar.Parser

namespace Grammar

/-- A refusal, the places of its tokens being forgotten. -/
def Refusal.unplaced : Refusal → Refusal
  | .unexpected wanted rest => .unexpected wanted (rest.map Token.unplaced)
  | .badSchema error => .badSchema error

namespace Parser

variable {α β : Type}

/-- What a parser comes to, the places of all tokens being forgotten. -/
def unplaced : Except Refusal (α × List Token) → Except Refusal (α × List Token)
  | .ok (value, rest) => .ok (value, rest.map Token.unplaced)
  | .error refusal => .error refusal.unplaced

/-- What a parser comes to does not depend on the places of tokens. -/
def Placeless (parser : Parser α) : Prop :=
  ∀ tokens, parser (tokens.map Token.unplaced) = unplaced (parser tokens)

/-- Parsers that do not depend on places do not do so in turn. -/
theorem Placeless.bind {first : Parser α} {next : α → Parser β} (placeless : first.Placeless)
    (following : ∀ value, (next value).Placeless) : (first >>= next).Placeless := by
  intro tokens
  change Parser.bind first next _ = unplaced (Parser.bind first next tokens)
  unfold Parser.bind
  rw [placeless tokens]
  cases first tokens with
  | error refusal => rfl
  | ok recognized => exact following recognized.1 recognized.2

/-- A parser may be bounded by the number of tokens. -/
theorem sized_placeless {parser : Nat → Parser α} (each : ∀ size, (parser size).Placeless) :
    Placeless fun tokens => parser tokens.length tokens := by
  intro tokens
  change parser (tokens.map Token.unplaced).length _ = _
  rw [List.length_map]
  exact each tokens.length tokens

end Parser

variable {α : Type}

theorem front_unplaced (tokens : List Token) : front (tokens.map Token.unplaced) = front tokens := by
  cases tokens <;> rfl

/-- Looking ahead does not depend on places. -/
theorem look_placeless : look.Placeless := by
  intro tokens
  unfold look
  rw [← List.map_tail, front_unplaced, front_unplaced]
  rfl

theorem advance_placeless : advance.Placeless := by
  intro tokens
  cases tokens <;> rfl

/-- Accepting a terminal does not depend on its place. -/
theorem accept_placeless (terminal : Terminal) : (accept terminal).Placeless := by
  intro tokens
  cases tokens with
  | nil => rfl
  | cons token rest =>
      simp only [List.map_cons, accept, Token.unplaced]
      split <;> rfl

/-- Expecting a terminal does not depend on its place. -/
theorem expect_placeless (terminal : Terminal) : (expect terminal).Placeless := by
  intro tokens
  cases tokens with
  | nil => rfl
  | cons token rest =>
      simp only [List.map_cons, expect, Token.unplaced]
      split <;> rfl

/-- Checking a declaration does not depend on places. -/
theorem schemaOf_placeless (table : String) (declared : List Column) :
    (schemaOf table declared).Placeless := by
  intro tokens
  unfold schemaOf
  split <;> rfl

/-- Not to depend on places is a property that the grammar can be gone through with. -/
theorem placeless_boundless : Boundless Parser.Placeless where
  pure _ _ := rfl
  refuse _ _ := rfl
  bind := .bind
  look := look_placeless
  advance := advance_placeless
  accept := accept_placeless
  expect := expect_placeless
  sized := sized_placeless

/-- Reading a statement does not depend on places. -/
theorem onlyStatement_placeless : onlyStatement.Placeless :=
  placeless_boundless.onlyStatement schemaOf_placeless

/-- A refusal is reported without the places of tokens. -/
theorem Refusal.toError_unplaced (refusal : Refusal) : refusal.unplaced.toError = refusal.toError := by
  cases refusal with
  | unexpected wanted rest => cases rest <;> rfl
  | badSchema error => rfl

end Grammar

namespace Statement

/-- Tokens that differ in their places only are read alike. -/
theorem ofTokens_unplaced {tokens tokens' : List Token}
    (same : tokens.map Token.unplaced = tokens'.map Token.unplaced) :
    (ofTokens tokens).mapError Grammar.Refusal.toError =
      (ofTokens tokens').mapError Grammar.Refusal.toError := by
  have forgotten (tokens : List Token) : (ofTokens tokens).mapError Grammar.Refusal.toError =
      (ofTokens (tokens.map Token.unplaced)).mapError Grammar.Refusal.toError := by
    unfold ofTokens
    rw [Grammar.onlyStatement_placeless tokens]
    cases Grammar.onlyStatement tokens with
    | ok recognized => rfl
    | error refusal => exact congrArg Except.error refusal.toError_unplaced.symm
  rw [forgotten tokens, forgotten tokens', same]

end Statement

end Relational
