import Relational.Proofs.Grammar.Closure

/-!
# Why expressions are refused

Only the declaration of a table can contradict itself.  An expression is refused for its
syntax, at a token, and so is everything inside it.
-/

namespace Relational

namespace Grammar

variable {α β : Type}

/-- A parser refuses tokens only for their syntax. -/
def Parser.Syntactic (parser : Parser α) : Prop :=
  ∀ tokens error, parser tokens ≠ .error (.badSchema error)

/-- Two parsers refuse tokens only for their syntax if each does. -/
theorem Parser.Syntactic.bind {first : Parser α} {next : α → Parser β}
    (syntactic : first.Syntactic) (following : ∀ value, (next value).Syntactic) :
    (first >>= next).Syntactic := by
  intro tokens error
  change Parser.bind first next tokens ≠ _
  unfold Parser.bind
  split
  · rename_i refusal refused
    rintro ⟨⟩
    exact syntactic tokens error refused
  · exact following _ _ error

/-- Accepting a terminal never fails. -/
theorem accept_syntactic (terminal : Terminal) : (accept terminal).Syntactic := by
  intro tokens error refused
  cases tokens with
  | nil => cases refused
  | cons token tokens =>
      change (if token.terminal = terminal then _ else _) = _ at refused
      split at refused <;> cases refused

/-- Expecting a terminal fails only for the syntax. -/
theorem expect_syntactic (terminal : Terminal) : (expect terminal).Syntactic := by
  intro tokens error refused
  cases tokens with
  | nil => cases refused
  | cons token tokens =>
      change (if token.terminal = terminal then _ else _) = _ at refused
      split at refused <;> cases refused

/-- To refuse only for the syntax is a property that the grammar can be gone through
with. -/
theorem syntactic_boundless : Boundless Parser.Syntactic where
  pure _ _ _ := nofun
  refuse _ _ _ := nofun
  bind := .bind
  look _ _ := nofun
  advance tokens _ refused := by cases tokens <;> cases refused
  accept := accept_syntactic
  expect := expect_syntactic
  sized each tokens := each tokens.length tokens

end Grammar

end Relational
