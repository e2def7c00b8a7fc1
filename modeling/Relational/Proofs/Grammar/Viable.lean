import Relational.Proofs.Grammar.Limit
import Relational.Proofs.Grammar.Prompt.Table
import Relational.Proofs.Grammar.Refusal

/-!
# Viable beginnings

A beginning of a text is viable if it can be completed to a text that is no syntax
error.  The parser points at the first token that cannot continue the grammar: the
tokens in front of it are viable.  Two kinds of beginnings are not, although the parser
reads on: a call that goes on behind all its arguments, which are counted at its end, and
the word of an aggregate function as the name of a table.  Near the limit on nesting what
is missing is sometimes a parenthesis that may not be opened any more.  What is refused for
its depth is refused behind as many tokens as there are levels.
-/

namespace Relational

namespace Grammar

/-! ### Statements -/

/-- The form of a statement, by its first word. -/
def form? : Terminal → Option (Parser Statement)
  | .keyword .select => some do
    let query ← select
    return .select query
  | .keyword .insert => some do
    let insertion ← insert
    return .insert insertion
  | .keyword .update => some do
    let change ← update
    return .update change
  | .keyword .delete => some do
    let removal ← delete
    return .delete removal
  | .keyword .create => some create
  | .keyword .drop => some do
    expectKeyword .drop
    introduced .table fun table => return .dropTable table
  | .keyword .«show» => some do
    expectKeyword .«show»
    expectKeyword .tables
    return .showTables
  | _ => none

/-- A statement has the form that its first word asks for. -/
theorem statement_eq (tokens : List Token) :
    statement tokens = ((form? (front tokens)).getD (Parser.refuse .statement)) tokens := by
  cases tokens with
  | nil => rfl
  | cons token tokens =>
      obtain ⟨terminal, lexeme, place⟩ := token
      cases terminal with
      | keyword word => cases word <;> rfl
      | _ => rfl

/-- Statements that drop a table are steady. -/
theorem drop_steady : Steady
    (expectKeyword .drop >>= fun _ =>
      introduced .table fun table => Pure.pure (Statement.dropTable table))
    (· = .keyword .drop) (Follows []) := by
  apply Steady.expecting _ rfl
  · exact (· = .keyword .table)
  · exact (named_steady .table Statement.dropTable).weaken (fun _ opening => opening)
      fun _ follows => follows.apart

/-- The statement that shows the tables is steady. -/
theorem show_steady : Steady
    (expectKeyword .«show» >>= fun _ => expectKeyword .tables >>= fun _ =>
      Pure.pure Statement.showTables)
    (· = .keyword .«show») (Follows []) := by
  apply Steady.expecting _ rfl
  · exact (· = .keyword .tables)
  · exact Ready.expected _ _ rfl _ _

/-- Statements are steady. -/
theorem statement_steady :
    Steady statement (fun first => (form? first).isSome) (Follows []) := by
  apply Steady.chosen statement_eq _ (rfl : form? (.keyword .«show») = some _)
  intro terminal form found
  unfold form? at found
  split at found <;> cases found
  · exact select_steady.last Statement.select
  · exact (insert_steady _).last Statement.insert
  · exact update_steady.last Statement.update
  · exact delete_steady.last Statement.delete
  · exact create_steady _
  · exact drop_steady
  · exact show_steady

/-- The end of a text behind its statement. -/
def ending (read : Statement) : Parser Statement := do
  let (first, _) ← look
  if first = .endOfInput then
    return read
  else
    Parser.refuse (.terminal .endOfInput)

/-- The end of a text is steady. -/
theorem ending_steady (read : Statement) :
    Steady (ending read) (· = .endOfInput) (· = .endOfInput) := by
  have ended : ∀ {tokens}, front tokens = .endOfInput → ending read tokens = .ok (read, tokens) :=
    fun here => by
      change (if front _ = .endOfInput then _ else _ : Parser Statement) _ = _
      rw [if_pos here]
      rfl
  have offers : Offers (fun _ : Nat => ending read) (fun k => k) (· = .endOfInput)
      (· = .endOfInput) :=
    .done read (fun _ _ _ here => ended here) fun _ here => here
  refine ⟨fun tokens => ?_, offers⟩
  by_cases here : front tokens = .endOfInput
  · apply PromptAt.done (ended here) _ fun _ here => here
    intro _ tail _ stands
    exact ended (stands.elim id fun same => same.1.trans here)
  · apply PromptAt.refused _ offers
    · exact .terminal .endOfInput
    · change (if front _ = .endOfInput then _ else _ : Parser Statement) _ = _
      rw [if_neg here]
      rfl

/-- Texts of a single statement are steady. -/
theorem onlyStatement_steady :
    Steady onlyStatement (fun first => (form? first).isSome) (· = .endOfInput) := by
  apply statement_steady.bind
  · intro read
    apply Ready.accepting
    · exact (ending_steady read).prompt
    · exact ending_steady read
    · exact fun _ => Nat.le_succ _
    · rfl
    · exact nofun
    · exact nofun
  · rintro terminal (rfl | rfl)
    · exact .semicolon
    · exact .endOfInput

end Grammar

namespace Statement

open Grammar

/-- A beginning can be completed to a text that is no syntax error. -/
def Viable (before : List Token) : Prop :=
  ∃ after last, last.terminal = .endOfInput ∧
    ∀ refusal, ofTokens (before ++ after ++ [last]) = .error refusal →
      ∀ fault, refusal.toError ≠ .syntaxFault fault

/-- A parenthesis stands behind a beginning, or is its last token, that may only be closed
again: anything else is nested too deeply. -/
def AtLimit (before : List Token) : Prop :=
  ∃ opening : List Token, opening.length ≤ 1 ∧
    (before ++ opening).getLast?.map Token.terminal = some (.symbol .leftParen) ∧
    ∀ tail, front tail ≠ .symbol .rightParen →
      ofTokens (before ++ opening ++ tail) = .error (.unexpected .expression tail)

/-- Tokens that are refused are refused by the grammar. -/
theorem onlyStatement_of_refused {tokens : List Token} {refusal : Refusal}
    (refused : ofTokens tokens = .error refusal) : onlyStatement tokens = .error refusal := by
  unfold ofTokens at refused
  split at refused
  · cases refused
  · cases refused
    assumption

/-- A beginning is viable if something completes it that is read without complaint about its
syntax. -/
theorem viable_of_reads {before extra : List Token} {outcome : Except Error Statement}
    (innocent : Innocent outcome)
    (reads : ∀ k tail, (before ++ extra).length < k → Behind (· = .endOfInput) outcome tail →
      onlyStatement (before ++ extra ++ tail) = finished outcome tail) : Viable before := by
  refine ⟨extra, ⟨.endOfInput, "", .start⟩, rfl, ?_⟩
  have read := reads _ [⟨.endOfInput, "", .start⟩] (Nat.lt_succ_self _) fun _ => rfl
  intro refusal refused fault same
  rw [onlyStatement_of_refused refused] at read
  cases outcome with
  | ok value => cases read
  | error error =>
      cases read
      exact innocent fault (congrArg Except.error same)

/-- A beginning is not viable if it is refused for its syntax, whatever follows. -/
theorem not_viable {before : List Token} (fails : ∀ tail, ∃ wanted rest,
    onlyStatement (before ++ tail) = .error (.unexpected wanted rest)) : ¬Viable before := by
  rintro ⟨after, last, -, innocent⟩
  obtain ⟨wanted, rest, refused⟩ := fails (after ++ [last])
  rw [← List.append_assoc] at refused
  have refused' : ofTokens (before ++ after ++ [last]) = .error (.unexpected wanted rest) := by
    rw [ofTokens, refused]
  cases rest with
  | nil => exact innocent _ refused' _ rfl
  | cons token rest => exact innocent _ refused' _ rfl

/-- An error is reported at the first token behind a viable beginning, or behind a dead end,
unless an expression is refused for its depth, behind as many tokens as levels are allowed. -/
theorem unexpected_viable {tokens rest : List Token} {wanted : Wanted}
    (refused : ofTokens tokens = .error (.unexpected wanted rest)) :
    ∃ before, tokens = before ++ rest ∧
      (wanted = .expression ∧ maxNesting ≤ before.length ∨ wanted ≠ .expression ∧
        (Viable before ∨ ¬Viable before ∧ (AtLimit before ∨ DeadEnd before))) := by
  by_cases depth : wanted = .expression
  · subst depth
    obtain ⟨before, split, deep⟩ := tokens_before_depth refused
    exact ⟨before, split, .inl ⟨rfl, deep⟩⟩
  obtain ⟨before, split, prospect⟩ :=
    (onlyStatement_steady.prompt tokens).refuses (onlyStatement_of_refused refused) depth
  refine ⟨before, split, .inr ⟨depth, ?_⟩⟩
  cases prospect with
  | completes extra outcome innocent reads _ => exact .inl (viable_of_reads innocent reads)
  | limited doomed opening short opened fails _ =>
      have dead := not_viable (doomed.fails _ · (Nat.lt_succ_self _))
      refine .inr ⟨dead, .inl ⟨opening, short, opened, ?_⟩⟩
      intro tail still
      rw [ofTokens, fails _ tail (Nat.lt_succ_self _) still]
  | stuck doomed dead => exact .inr ⟨not_viable (doomed.fails _ · (Nat.lt_succ_self _)), .inr dead⟩

/-- Where some tokens are refused, and what is asked for there. -/
def refusedAt? (tokens : List Token) : Option (Wanted × List Token) :=
  match ofTokens tokens with
  | .error (.unexpected wanted rest) => some (wanted, rest)
  | _ => none

/-- Tokens are refused where the test says that they are. -/
theorem refused_of_refusedAt? {tokens rest : List Token} {wanted : Wanted}
    (found : refusedAt? tokens = some (wanted, rest)) :
    ofTokens tokens = .error (.unexpected wanted rest) := by
  unfold refusedAt? at found
  split at found
  · cases found
    assumption
  · cases found

/-- The tokens of `SELECT a FROM`. -/
def unfinished : List Token :=
  [.keyword .select, .name "a", .keyword .«from», .endOfInput].map (⟨·, "", .start⟩)

/-- The query that breaks off behind `FROM` is reported at its end, behind a viable
beginning. -/
theorem unfinished_viable :
    ofTokens unfinished =
        .error (.unexpected (.terminal (.name "")) (unfinished.drop 3)) ∧
      ∃ before, unfinished = before ++ unfinished.drop 3 ∧
        (Wanted.terminal (.name "") = .expression ∧ maxNesting ≤ before.length ∨
          Wanted.terminal (.name "") ≠ .expression ∧
            (Viable before ∨ ¬Viable before ∧ (AtLimit before ∨ DeadEnd before))) := by
  have found : refusedAt? unfinished = some (.terminal (.name ""), unfinished.drop 3) := by
    decide +kernel
  have refused := refused_of_refusedAt? found
  exact ⟨refused, unexpected_viable refused⟩

/-- The tokens of `SELECT YEAR(a, b) FROM t`. -/
def surplusArgument : List Token :=
  [.keyword .select, .name "YEAR", .symbol .leftParen, .name "a", .symbol .comma, .name "b",
    .symbol .rightParen, .keyword .«from», .name "t", .endOfInput].map (⟨·, "", .start⟩)

/-- The first item of a query is refused for its syntax if its expression is. -/
theorem select_fails {selecting : Token} {tokens rest : List Token} {wanted : Wanted}
    (here : selecting.terminal = .keyword .select) (apart : front tokens ≠ .symbol .star)
    (refused : expression tokens = .error (.unexpected wanted rest)) :
    onlyStatement (selecting :: tokens) = .error (.unexpected wanted rest) := by
  have item : selectItem tokens = .error (.unexpected wanted rest) :=
    bind_of_ok (accept_of_ne apart) (bind_of_error refused)
  have query : Grammar.select (selecting :: tokens) = .error (.unexpected wanted rest) :=
    bind_of_ok (expect_cons here) (bind_of_error (bind_of_error item))
  apply bind_of_error
  rw [statement_eq]
  change ((form? selecting.terminal).getD _) _ = _
  rw [here]
  exact bind_of_error query

/-- The year of a list of expressions is refused, whatever else the list holds. -/
theorem year_fails (tail : List Token) : ∃ wanted rest,
    expression (⟨.name "YEAR", "", .start⟩ :: ⟨.symbol .leftParen, "", .start⟩ ::
      ⟨.name "a", "", .start⟩ :: ⟨.symbol .comma, "", .start⟩ :: tail) =
        .error (.unexpected wanted rest) := by
  have known : ScalarFunction.ofName? "YEAR" = some .year := by decide +kernel
  obtain ⟨steps, steps_eq⟩ : ∃ steps, 2 * (tail.length + 4) + 2 = steps + 4 :=
    ⟨2 * (tail.length + 3), by omega⟩
  -- The first argument is all that the function takes.
  have read : exactly (argument (expressionAt (steps + 2) 1) (operandAt (steps + 2) 1) .year)
      (tail.length + 3) 0 0 (⟨.name "a", "", .start⟩ :: ⟨.symbol .comma, "", .start⟩ :: tail) =
        .ok ([.column "a"], ⟨.symbol .comma, "", .start⟩ :: tail) := by
    rw [exactly_one (Nat.succ_pos _), argument_zero]
    exact bind_of_ok (expressionAt_name (by decide) "a" "" .start ends_comma steps) rfl
  obtain ⟨wanted, rest, refused⟩ :=
    surplus_fails (argumentAt_syntactic (steps + 2) 1 .year) (tail.length + 3 - 1) 1 tail
  refine ⟨wanted, rest, ?_⟩
  change expressionAt (2 * (tail.length + 4) + 2) 0 1 _ = _
  rw [steps_eq, expressionAt, if_neg (by decide)]
  apply bind_of_error
  rw [operandAt_called known]
  refine (called_exceeded rfl ?_ read rfl).trans refused
  rw [front]
  rintro ⟨⟩

/-- The second argument of a function that takes one is read, and is refused only behind
it, but what ends with it is not viable. -/
theorem surplusArgument_not_viable :
    ofTokens surplusArgument =
        .error (.unexpected (.terminal (.symbol .rightParen)) (surplusArgument.drop 6)) ∧
      ¬Viable (surplusArgument.take 6) := by
  constructor
  · apply refused_of_refusedAt?
    decide +kernel
  · apply not_viable
    intro tail
    obtain ⟨wanted, rest, refused⟩ := year_fails (⟨.name "b", "", .start⟩ :: tail)
    have apart : Terminal.name "YEAR" ≠ .symbol .star := nofun
    exact ⟨wanted, rest, select_fails rfl apart refused⟩

end Statement

end Relational
