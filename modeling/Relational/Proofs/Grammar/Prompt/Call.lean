import Relational.Proofs.Grammar
import Relational.Proofs.Grammar.Prompt.Operators
import Relational.Proofs.Grammar.Refusal

/-!
# Prompt reading of calls

The arguments of a function are counted when the whole list of them was read.  A call
is still read promptly as long as it has no more arguments than it may have: then it
reads what a call reads that asks for a comma or a parenthesis behind every argument.
A call that goes on behind the last argument of its function is overfull, and is
refused wherever the list ends.
-/

namespace Relational

namespace Grammar

instance : LawfulMonad Parser := by
  apply LawfulMonad.mk' Parser
  · intro α parser
    funext tokens
    change Parser.bind parser (fun value => Parser.pure value) tokens = parser tokens
    unfold Parser.bind
    cases parser tokens <;> rfl
  · exact fun value next => rfl
  · intro α β γ parser next last
    funext tokens
    change Parser.bind (Parser.bind parser next) last tokens =
      Parser.bind parser (fun value => Parser.bind (next value) last) tokens
    unfold Parser.bind
    cases parser tokens <;> rfl

/-! ### Arguments -/

/-- What stands in front of the arguments that complete something. -/
def StartsArgument (terminal : Terminal) : Prop :=
  terminal = .keyword .interval ∨ StartsOperand terminal

section

variable {κ : Type} {expression : Nat → Parser Expr} {version : κ → Nat → Parser Expr}
  {operand : Parser Expr} {operandVersion : κ → Parser Expr} {room : κ → Nat}
  {ends : Terminal → Prop} {tokens : List Token}

/-- The unit of an interval is ready: a day completes it. -/
theorem intervalUnit_ready (amount : Expr) (room : κ → Nat) (ends : Terminal → Prop) :
    Ready (intervalUnit amount) (fun _ => intervalUnit amount) room (· = .name "DAY") ends := by
  have offers : Offers (fun _ => intervalUnit amount) room (· = .name "DAY") ends :=
    .reading [⟨.name "DAY", "", .start⟩] (.interval amount .day)
      (fun _ _ _ _ => intervalUnit_known (ofName?_unit .day)) fun _ _ => rfl
  refine ⟨fun tokens => ?_, offers⟩
  cases tokens with
  | nil => exact .refused rfl offers
  | cons token tokens =>
      obtain ⟨terminal, lexeme, place⟩ := token
      cases terminal with
      | name s =>
          cases named : IntervalUnit.ofName? s with
          | some known =>
              apply ((Ready.pure (Expr.interval amount known) room ends).prompt tokens).shift
                (intervalUnit_known named)
              · exact fun _ _ _ _ => intervalUnit_known named
              · exact fun _ => Nat.le_succ _
              · rfl
              · exact .inr nofun
          | none =>
              exact PromptAt.refused (intervalUnit_unknown named) offers
      | _ => exact .refused rfl offers

/-- An argument is ready if expressions and operands are. -/
theorem argument_ready (inner : ∀ least, Ready (expression least) (fun k => version k least) room
      StartsOperand (Ends least))
    (operands : ∀ tokens, PromptAt operand operandVersion room StartsOperand
      (Ends comparisonPrecedence) tokens) (function : ScalarFunction) (position : Nat) :
    Ready (argument expression operand function position)
      (fun k => argument (version k) (operandVersion k) function position) room StartsArgument
      (Ends 1) := by
  by_cases second : function = .dateSub ∧ position = 1
  · have interval (tokens : List Token) : PromptAt (intervalAmount operand)
        (fun k => intervalAmount (operandVersion k)) room StartsOperand (Ends 1) tokens := by
      apply (operands tokens).bind
      · exact fun amount rest _ => (intervalUnit_ready amount room (Ends 1)).prompt rest
      · exact fun amount => (intervalUnit_ready amount room (Ends 1)).offers
      · rintro _ rfl
        apply ends_of_none (fun _ => rfl) rfl
        rintro ⟨⟩
      · exact fun _ => ⟨Nat.le_refl _, Nat.le_refl _⟩
    unfold argument
    rw [acceptIf, if_pos (decide_eq_true second)]
    apply Ready.accepting
    · exact interval
    · exact inner 1
    · exact fun _ => Nat.le_succ _
    · rfl
    · rintro ⟨⟩
    · rintro (none | none) <;> cases none
  · unfold argument
    rw [acceptIf, if_neg (by rwa [decide_eq_true_iff])]
    exact (inner 1).weaken (fun _ => .inr) fun _ ending => ending

/-- The first argument of every function is an expression. -/
theorem argument_zero (expression : Nat → Parser Expr) (operand : Parser Expr)
    (function : ScalarFunction) : argument expression operand function 0 = expression 1 := by
  unfold argument
  rw [acceptIf, if_neg (by simp)]
  rfl

/-! ### As many arguments as the function takes -/

/-- The item at a position and so many more, with commas between them. -/
def exactly {α : Type} (item : Nat → Parser α) : Nat → Nat → Nat → Parser (List α)
  | 0, _, _ => Parser.refuse .expression
  | _ + 1, 0, position => do
    let only ← item position
    return [only]
  | steps + 1, more + 1, position => do
    let first ← item position
    expectSymbol .comma
    let others ← exactly item steps more (position + 1)
    return first :: others

section

variable {α : Type} {item : Nat → Parser α} {again : κ → Nat → Parser α} {opens : Terminal → Prop}
  {steps more position : Nat}

/-- Without steps an item is refused as too deep. -/
theorem exactly_zero (tokens : List Token) :
    exactly item 0 more position tokens = .error (.unexpected .expression tokens) :=
  rfl

/-- The last item is read on its own. -/
theorem exactly_one (enough : 0 < steps) :
    exactly item steps 0 position = item position >>= fun only => Pure.pure [only] := by
  obtain ⟨fewer, rfl⟩ := Nat.exists_eq_add_one.mpr enough
  rfl

/-- Every other item is read with a comma behind it. -/
theorem exactly_more (enough : 0 < steps) :
    exactly item steps (more + 1) position = item position >>= fun first =>
      expect (.symbol .comma) >>= fun _ =>
        exactly item (steps - 1) more (position + 1) >>= fun others =>
          Pure.pure (first :: others) := by
  obtain ⟨fewer, rfl⟩ := Nat.exists_eq_add_one.mpr enough
  rfl

/-- So many items with commas are ready if each item is and may end at a comma. -/
theorem exactly_ready
    (ready : ∀ position, Ready (item position) (fun k => again k position) room opens ends)
    (continues : ends (.symbol .comma)) (steps more position : Nat) :
    Ready (exactly item steps more position)
      (fun k : κ × Nat => exactly (again k.1) k.2 more position)
      (fun k => min (room k.1) k.2) opens ends := by
  have head (position : Nat) : Ready (item position) (fun k : κ × Nat => again k.1 position)
      (fun k => min (room k.1) k.2) opens ends :=
    ((ready position).reindex Prod.fst).fewer fun _ => Nat.min_le_left _ _
  have enough {k : κ × Nat} (fits : 0 < min (room k.1) k.2) := (Nat.lt_min.mp fits).2
  induction more generalizing steps position with
  | zero =>
      apply ((head position).last fun only => [only]).unrolled
      · rcases steps.eq_zero_or_pos with rfl | some
        · exact .inr fun tokens => ⟨tokens, exactly_zero tokens⟩
        · exact .inl (exactly_one some)
      · exact fun k fits => exactly_one (enough fits)
  | succ more ih =>
      have others (first : α) := ((ih (steps - 1) (position + 1)).reindex
        fun k : κ × Nat => (k.1, k.2 - 1)).last (first :: ·)
      have behind (first : α) : Ready
          (expect (.symbol .comma) >>= fun _ =>
            exactly item (steps - 1) more (position + 1) >>= fun others =>
              Pure.pure (first :: others))
          (fun k : κ × Nat => expect (.symbol .comma) >>= fun _ =>
            exactly (again k.1) (k.2 - 1) more (position + 1) >>= fun others =>
              Pure.pure (first :: others))
          (fun k => min (room k.1) k.2) (· = .symbol .comma) ends := by
        apply (others first).expecting_fits _ rfl
        intro k
        dsimp only
        omega
      apply ((head position).bind behind fun _ comma => comma ▸ continues).unrolled
      · rcases steps.eq_zero_or_pos with rfl | some
        · exact .inr fun tokens => ⟨tokens, exactly_zero tokens⟩
        · exact .inl (exactly_more some)
      · exact fun k fits => exactly_more (enough fits)

end

/-! ### Counting the arguments -/

/-- Arguments that a function does not take. -/
def surplus (item : Nat → Parser Expr) (steps position : Nat) : Parser Expr := do
  let _ ← listFrom item steps position
  Parser.refuse (.terminal (.symbol .rightParen))

/-- What stands behind as many arguments as a function takes. -/
def closing (item : Nat → Parser Expr) (steps position : Nat) (function : ScalarFunction)
    (arguments : List Expr) : Parser Expr := do
  if ← accept (.symbol .comma) then
    surplus item steps position
  else
    expectSymbol .rightParen
    return .call function arguments

section

variable {item : Nat → Parser Expr} {function : ScalarFunction} {passed values : List Expr}
  {rest : List Token} {steps more position : Nat}

/-- Where arguments are missing, a comma is asked for. -/
theorem counted_few (few : values.length < function.arity) :
    counted function values = Parser.refuse (.terminal (.symbol .comma)) :=
  if_pos few

/-- Where there are too many arguments, the closing parenthesis is asked for. -/
theorem counted_many (many : function.arity < values.length) :
    counted function values = Parser.refuse (.terminal (.symbol .rightParen)) := by
  rw [counted, if_neg (Nat.not_lt_of_gt many), if_pos many]

/-- With the right number of arguments, the call is closed. -/
theorem counted_full (full : values.length = function.arity) :
    counted function values = expect (.symbol .rightParen) >>= fun _ =>
      Pure.pure (.call function values) := by
  rw [counted, if_neg (Nat.not_lt.mpr full.ge), if_neg (Nat.not_lt.mpr full.le)]
  rfl

/-- Where no comma follows the arguments, the call has to be closed. -/
theorem closing_apart (apart : front tokens ≠ .symbol .comma) :
    closing item steps position function values tokens =
      (expect (.symbol .rightParen) >>= fun _ => Pure.pure (Expr.call function values)) tokens :=
  bind_of_ok (accept_of_ne apart) rfl

/-- Behind all arguments of a function any further ones are surplus. -/
theorem counted_surplus (full : passed.length = function.arity) :
    (listFrom item steps position >>= fun others => counted function (passed ++ others)) =
      surplus item steps position := by
  funext tokens
  cases read : listFrom item steps position tokens with
  | error refusal => exact (bind_of_error read).trans (bind_of_error read).symm
  | ok listed =>
      obtain ⟨others, rest⟩ := listed
      obtain ⟨some, -⟩ := listFrom_yields (fun position => (.of_forall fun _ => trivial :
        (item position).Yields fun _ => True)) steps position tokens others rest read
      have many : function.arity < (passed ++ others).length := by
        have several := List.length_pos_iff.mpr some
        rw [List.length_append]
        omega
      apply (bind_of_ok read rfl).trans (bind_of_ok read _).symm
      exact congrFun (counted_many many).symm rest

/-- The arguments may be counted when the whole list was read. -/
theorem counted_listFrom (number : passed.length + more + 1 = function.arity) :
    (listFrom item steps position >>= fun others => counted function (passed ++ others)) =
      exactly item steps more position >>= fun others =>
        closing item (steps - (more + 1)) (position + more + 1) function (passed ++ others) := by
  induction more generalizing steps position passed with
  | zero =>
      cases steps with
      | zero => rfl
      | succ steps =>
          rw [exactly_one (Nat.succ_pos steps), bind_assoc, listFrom, bind_assoc]
          congr 1
          funext first
          have full : (passed ++ [first]).length = function.arity := by
            rw [List.length_append]
            exact number
          rw [pure_bind, bind_assoc]
          congr 1
          funext comma
          cases comma with
          | true =>
              have further := @counted_surplus item function _ steps (position + 1) full
              simp only [List.append_assoc, List.singleton_append] at further
              rw [if_pos rfl, if_pos rfl, bind_assoc]
              simp only [pure_bind]
              exact further
          | false =>
              rw [if_neg Bool.false_ne_true, if_neg Bool.false_ne_true, pure_bind]
              exact counted_full full
  | succ more ih =>
      cases steps with
      | zero => rfl
      | succ steps =>
          rw [exactly_more (Nat.succ_pos steps), bind_assoc, listFrom, bind_assoc]
          congr 1
          funext first
          have fewer : (passed ++ [first]).length + more + 1 = function.arity := by
            rw [List.length_append, List.length_singleton]
            omega
          rw [bind_assoc, bind_assoc]
          funext tokens
          by_cases comma : front tokens = .symbol .comma
          · cases tokens with
            | nil => cases comma
            | cons token tokens =>
                have later := congrFun (@ih (passed ++ [first]) steps (position + 1) fewer) tokens
                rw [Nat.add_right_comm position 1 more, ← Nat.add_sub_add_right steps 1] at later
                simp only [List.append_assoc, List.singleton_append] at later
                apply (bind_of_ok (accept_cons comma) _).trans
                  (bind_of_ok (expect_cons comma) rfl).symm
                rw [if_pos rfl, bind_assoc, bind_assoc]
                simp only [pure_bind]
                exact later
          · apply (bind_of_ok (accept_of_ne comma) rfl).trans
            rw [bind_of_error (expect_of_ne comma)]
            exact congrFun (counted_few (by omega : (passed ++ [first]).length < _)) tokens

/-- So many items are a list of this length, unless another comma follows. -/
theorem listFrom_of_exactly
    (read : exactly item steps more position tokens = .ok (values, rest)) :
    values.length = more + 1 ∧ (front rest ≠ .symbol .comma →
      listFrom item steps position tokens = .ok (values, rest)) := by
  induction more generalizing steps position tokens values with
  | zero =>
      cases steps with
      | zero => cases read
      | succ steps =>
          obtain ⟨only, between, first, last⟩ := exists_of_bind read
          cases last
          exact ⟨rfl, fun apart => bind_of_ok first (bind_of_ok (accept_of_ne apart) rfl)⟩
  | succ more ih =>
      cases steps with
      | zero => cases read
      | succ steps =>
          obtain ⟨value, between, first, others⟩ := exists_of_bind read
          obtain ⟨_, behind, comma, others⟩ := exists_of_bind others
          obtain ⟨values, between', others, last⟩ := exists_of_bind others
          cases last
          obtain ⟨number, listed⟩ := ih others
          refine ⟨congrArg (· + 1) number, fun apart => ?_⟩
          obtain ⟨token, here, rfl⟩ := exists_of_expect comma
          exact bind_of_ok first (bind_of_ok (accept_cons here) (bind_of_ok (listed apart) rfl))

/-- Where a comma follows the arguments, more of them are read. -/
theorem closing_comma {token : Token} (comma : token.terminal = .symbol .comma) :
    closing item steps position function values (token :: tokens) =
      surplus item steps position tokens :=
  bind_of_ok (accept_cons comma) rfl

end

section

variable {item : Nat → Parser Expr} {again : κ → Nat → Parser Expr} {function : ScalarFunction}
  {values : List Expr} {opens : Terminal → Prop}

/-- Arguments that a function does not take are refused in the end. -/
theorem surplus_fails (syntactic : ∀ position, (item position).Syntactic)
    (steps position : Nat) (tokens : List Token) :
    ∃ wanted rest, surplus item steps position tokens = .error (.unexpected wanted rest) := by
  cases read : listFrom item steps position tokens with
  | ok recognized => exact ⟨_, _, bind_of_ok read rfl⟩
  | error refusal =>
      cases refusal with
      | unexpected wanted rest => exact ⟨wanted, rest, bind_of_error read⟩
      | badSchema error => exact absurd read (syntactic_boundless.listFrom syntactic _ _ _ _)

/-- Surplus arguments are refused at some token behind those that were read. -/
theorem surplus_refused
    (ready : ∀ position, Ready (item position) (fun k => again k position) room opens ends)
    (continues : ends (.symbol .comma)) {steps position : Nat} {wanted : Wanted} {rest : List Token}
    (refused : surplus item steps position tokens = .error (.unexpected wanted rest))
    (other : wanted ≠ .expression) : ∃ before, tokens = before ++ rest := by
  have listed := (Ready.listFrom ready continues steps position).prompt tokens
  cases read : listFrom item steps position tokens with
  | error refusal =>
      rw [surplus, bind_of_error read] at refused
      cases refused
      obtain ⟨before, split, -⟩ := listed.refuses read other
      exact ⟨before, split⟩
  | ok recognized =>
      rw [surplus, bind_of_ok read rfl] at refused
      cases refused
      obtain ⟨used, split, -⟩ := listed.resumes read
      exact ⟨used, split⟩

/-- The end of a call can be completed by its parenthesis. -/
theorem closing_offers (again : κ → Nat → Parser Expr) (steps : κ → Nat) (position : Nat)
    (function : ScalarFunction) (values : List Expr) (room : κ → Nat) (ends : Terminal → Prop) :
    Offers (fun k => closing (again k) (steps k) position function values) room
      (· = .symbol .rightParen) ends := by
  have closed := Ready.expected (.symbol .rightParen) (Expr.call function values) rfl room ends
  apply closed.offers.congr _ fun _ opening => opening
  intro k tokens _ opening
  exact closing_apart (by rw [opening]; nofun)

/-- The end of a call is prompt where no comma follows. -/
theorem closing_prompt (item : Nat → Parser Expr) (again : κ → Nat → Parser Expr) (fewer : Nat)
    (steps : κ → Nat) (position : Nat) (function : ScalarFunction) (values : List Expr)
    (room : κ → Nat) (ends : Terminal → Prop) (apart : front tokens ≠ .symbol .comma) :
    PromptAt (closing item fewer position function values)
      (fun k => closing (again k) (steps k) position function values) room
      (· = .symbol .rightParen) ends tokens := by
  have closed := Ready.expected (.symbol .rightParen) (Expr.call function values) rfl room ends
  apply (closed.prompt tokens).congr (closing_apart apart) _ fun _ opening => opening
  intro k tokens' _ stands
  apply closing_apart
  rcases stands with opening | ⟨same, -⟩
  · rw [opening]
    nofun
  · rwa [same]

/-- The rest of a call whose arguments are counted at its end. -/
def called (expression : Nat → Parser Expr) (operand : Parser Expr) (function : ScalarFunction) :
    Parser Expr :=
  argumentList expression operand function >>= counted function

/-- The rest of a call that takes its arguments one by one. -/
def calledExactly (expression : Nat → Parser Expr) (operand : Parser Expr)
    (function : ScalarFunction) (more steps : Nat) : Parser Expr :=
  exactly (argument expression operand function) steps more 0 >>=
    closing (argument expression operand function) (steps - (more + 1)) (more + 1) function

/-- A call that counts its arguments at the end reads them as one that takes them one by
one. -/
theorem called_eq {more : Nat} (some : front tokens ≠ .symbol .rightParen)
    (number : function.arity = more + 1) :
    called expression operand function tokens =
      calledExactly expression operand function more (tokens.length + 1) tokens := by
  have exact := congrFun (@counted_listFrom (argument expression operand function) function []
    (tokens.length + 1) more 0 (by simp [number])) tokens
  simp only [List.nil_append, Nat.zero_add] at exact
  exact (bind_congr_at (argumentList_eq some)).trans exact

/-- A call that takes no arguments but has some is refused in the end. -/
theorem called_surplus (some : front tokens ≠ .symbol .rightParen) (none : function.arity = 0) :
    called expression operand function tokens =
      surplus (argument expression operand function) (tokens.length + 1) 0 tokens :=
  (bind_congr_at (argumentList_eq some)).trans
    (congrFun (@counted_surplus _ function [] _ _ none.symm) tokens)

/-- A call that takes no arguments and has none is closed. -/
theorem called_closed (here : front tokens = .symbol .rightParen) (none : function.arity = 0) :
    called expression operand function tokens =
      (expect (.symbol .rightParen) >>= fun _ => Pure.pure (Expr.call function [])) tokens := by
  have number : ([] : List Expr).length = function.arity := none.symm
  rw [← counted_full number]
  exact bind_of_ok (if_pos here) rfl

/-- A call that is closed too early is refused where it is closed. -/
theorem called_few {more : Nat} (here : front tokens = .symbol .rightParen)
    (number : function.arity = more + 1) : called expression operand function tokens =
      .error (.unexpected (.terminal (.symbol .comma)) tokens) := by
  have few : ([] : List Expr).length < function.arity := number ▸ Nat.succ_pos more
  exact bind_of_ok (if_pos here) (congrFun (counted_few few) tokens)

/-- A call whose first argument is too deep is refused at this argument. -/
theorem called_refused (some : front tokens ≠ .symbol .rightParen)
    (refused : expression 1 tokens = .error (.unexpected .expression tokens)) :
    called expression operand function tokens = .error (.unexpected .expression tokens) := by
  rw [← argument_zero expression operand function] at refused
  exact bind_of_error ((argumentList_eq some).trans (bind_of_error refused))

/-! ### Calls that are not overfull -/

/-- A call without arguments can be completed by its parenthesis. -/
theorem called_none_offers (none : function.arity = 0) (version : κ → Nat → Parser Expr)
    (operandVersion : κ → Parser Expr) (room : κ → Nat) (ends : Terminal → Prop) :
    Offers (fun k => called (version k) (operandVersion k) function) room (· = .symbol .rightParen)
      ends := by
  have closed := Ready.expected (.symbol .rightParen) (Expr.call function []) rfl room ends
  apply closed.offers.congr _ fun _ opening => opening
  exact fun k tokens _ opening => called_closed opening none

/-- A call without arguments is prompt where it is closed. -/
theorem called_none_prompt (here : front tokens = .symbol .rightParen) (none : function.arity = 0)
    (version : κ → Nat → Parser Expr) (operandVersion : κ → Parser Expr) (room : κ → Nat)
    (ends : Terminal → Prop) :
    PromptAt (called expression operand function)
      (fun k => called (version k) (operandVersion k) function) room (· = .symbol .rightParen) ends
      tokens := by
  have closed := Ready.expected (.symbol .rightParen) (Expr.call function []) rfl room ends
  apply (closed.prompt tokens).congr (called_closed here none) _ fun _ opening => opening
  intro k tokens' _ stands
  apply called_closed _ none
  rcases stands with opening | ⟨same, -⟩
  · exact opening
  · rwa [same]

/-- No argument starts with the closing parenthesis. -/
theorem StartsArgument.ne_rightParen {terminal : Terminal} (starts : StartsArgument terminal) :
    terminal ≠ .symbol .rightParen := by
  rintro rfl
  rcases starts with none | none | none <;> cases none

section

variable (arguments : ∀ position, Ready (argument expression operand function position)
  (fun k => argument (version k) (operandVersion k) function position) room StartsArgument (Ends 1))

include arguments

/-- A call with arguments can be completed by columns, and by an interval where one is asked
for. -/
theorem called_offers {more : Nat} (number : function.arity = more + 1) (ends : Terminal → Prop) :
    Offers (fun k => called (version k) (operandVersion k) function) room StartsArgument ends := by
  have exact := (exactly_ready arguments ends_comma 0 more 0).offers
  have both : Offers (fun k : κ × Nat => calledExactly (version k.1) (operandVersion k.1) function
      more k.2) (fun k => min (room k.1) k.2) StartsArgument ends :=
    exact.bind (fun values => closing_offers _ _ (more + 1) function values _ ends)
      (fun _ here => here ▸ ends_rightParen) fun _ => ⟨Nat.le_refl _, Nat.le_refl _⟩
  apply (both.sized fun k => calledExactly (version k) (operandVersion k) function more).congr _
    fun _ opening => opening
  exact fun k tokens _ opening => called_eq opening.ne_rightParen number

/-- A call is read promptly if there is no comma behind its last argument. -/
theorem called_prompt {more : Nat} (number : function.arity = more + 1)
    (some : front tokens ≠ .symbol .rightParen)
    (closes : ∀ values rest, exactly (argument expression operand function) (tokens.length + 1)
      more 0 tokens = .ok (values, rest) → front rest ≠ .symbol .comma) (ends : Terminal → Prop) :
    PromptAt (called expression operand function)
      (fun k => called (version k) (operandVersion k) function) room StartsArgument ends
      tokens := by
  have exact := (exactly_ready arguments ends_comma (tokens.length + 1) more 0).prompt tokens
  have both : PromptAt (calledExactly expression operand function more (tokens.length + 1))
      (fun k : κ × Nat => calledExactly (version k.1) (operandVersion k.1) function more k.2)
      (fun k => min (room k.1) k.2) StartsArgument ends tokens :=
    exact.bind
      (fun values rest read => closing_prompt _ _ _ _ _ _ _ _ ends (closes values rest read))
      (fun values => closing_offers _ _ _ _ _ _ ends) (fun _ here => here ▸ ends_rightParen)
      fun _ => ⟨Nat.le_refl _, Nat.le_refl _⟩
  apply (both.sized (fun k => calledExactly (version k) (operandVersion k) function more)
    rfl).congr (called_eq some number) _ fun _ opening => opening
  intro k tokens' _ stands
  apply called_eq _ number
  rcases stands with opening | ⟨same, -⟩
  · exact opening.ne_rightParen
  · rwa [same]

end

end

end

/-! ### Calls as operands -/

section

variable {steps depth : Nat} {function : ScalarFunction} {s lexeme lexeme' : String}
  {place place' : Place} {tokens : List Token}

/-- A name is a call if a parenthesis follows, and a column otherwise. -/
theorem operandAt_name (steps depth : Nat) (s lexeme : String) (place : Place)
    (tokens : List Token) :
    operandAt (steps + 1) depth (⟨.name s, lexeme, place⟩ :: tokens) =
      (if front tokens = .symbol .leftParen then
        functionCall (expressionAt steps depth) (operandAt steps depth) s
      else name >>= fun column => Pure.pure (Expr.column column))
        (⟨.name s, lexeme, place⟩ :: tokens) :=
  rfl

/-- A name of a function with a parenthesis behind it is read as a call. -/
theorem operandAt_called (known : ScalarFunction.ofName? s = some function) (steps : Nat)
    (tokens : List Token) :
    operandAt (steps + 1) depth
        (⟨.name s, lexeme, place⟩ :: ⟨.symbol .leftParen, lexeme', place'⟩ :: tokens) =
      called (expressionAt steps depth) (operandAt steps depth) function tokens := by
  rw [operandAt_name, front, if_pos rfl, functionCall_eq known]
  rfl

/-- An operand is read promptly.  A version with so many steps has room for half as many
tokens. -/
abbrev OperandPrompt (steps depth : Nat) (tokens : List Token) : Prop :=
  PromptAt (operandAt steps depth) (fun k => operandAt k depth) (fun k => (k + 1) / 2)
    StartsOperand (Ends comparisonPrecedence) tokens

/-- Behind its first tokens an operand goes on with one step less. -/
theorem operandAt_behind (leading : List Token) {parser : Parser Expr} {again : Nat → Parser Expr}
    {room : Nat → Nat} {leads : Terminal → Prop}
    (prompt : PromptAt parser again room leads (Ends comparisonPrecedence) tokens)
    (same : operandAt (steps + 1) depth (leading ++ tokens) = parser tokens)
    (alike : ∀ k tokens', Stands leads tokens tokens' →
      operandAt (k + 1) depth (leading ++ tokens') = again k tokens')
    (fits : ∀ k, k / 2 ≤ room k) (some : leading ≠ []) (settled : Settled leading)
    (stands : ∀ tail, Stands leads tokens tail →
      Stands StartsOperand (leading ++ tokens) (leading ++ tail)) :
    OperandPrompt (steps + 1) depth (leading ++ tokens) := by
  apply (prompt.reindex (· - 1)).behind leading same _ _ settled stands
  · intro k tokens' enough standing
    obtain ⟨fewer, rfl⟩ : ∃ fewer, k = fewer + 1 := Nat.exists_eq_add_one.mpr (by omega)
    exact alike fewer tokens' standing
  · intro k
    have enough := fits (k - 1)
    have several := List.length_pos_iff.mpr some
    omega

/-- A call is prompt behind its name if its rest is. -/
theorem call_behind (known : ScalarFunction.ofName? s = some function) {leads : Terminal → Prop}
    (prompt : PromptAt (called (expressionAt steps depth) (operandAt steps depth) function)
      (fun k => called (expressionAt k depth) (operandAt k depth) function) (· / 2) leads
      (Ends comparisonPrecedence) tokens) :
    OperandPrompt (steps + 1) depth
      (⟨.name s, lexeme, place⟩ :: ⟨.symbol .leftParen, lexeme', place'⟩ :: tokens) :=
  operandAt_behind [⟨.name s, lexeme, place⟩, ⟨.symbol .leftParen, lexeme', place'⟩] prompt
    (operandAt_called known _ _) (fun k tokens' _ => operandAt_called known k tokens')
    (fun _ => Nat.le_refl _) (List.cons_ne_nil _ _) (.concat [_] rfl)
    fun _ _ => .inr ⟨rfl, nofun⟩

/-- Arguments are refused only for their syntax. -/
theorem argumentAt_syntactic (steps depth : Nat) (function : ScalarFunction) (position : Nat) :
    (argument (expressionAt steps depth) (operandAt steps depth) function position).Syntactic :=
  syntactic_boundless.sequential.argument ((syntactic_boundless.nesting steps).1 depth)
    ((syntactic_boundless.nesting steps).2 depth) function position

/-- A call is doomed if what stands behind its parenthesis is, with one step less. -/
theorem call_doomed (known : ScalarFunction.ofName? s = some function) {inside : List Token}
    (fails : ∀ k tail, inside.length < k / 2 → ∃ wanted rest,
      called (expressionAt k depth) (operandAt k depth) function (inside ++ tail) =
        .error (.unexpected wanted rest)) :
    Doomed (fun k => operandAt k depth) (fun k => (k + 1) / 2) StartsOperand
      (⟨.name s, lexeme, place⟩ :: ⟨.symbol .leftParen, lexeme', place'⟩ :: tokens)
      (⟨.name s, lexeme, place⟩ :: ⟨.symbol .leftParen, lexeme', place'⟩ :: inside) where
  fails k tail enough := by
    change inside.length + 2 < (k + 1) / 2 at enough
    obtain ⟨fewer, rfl⟩ : ∃ fewer, k = fewer + 1 := Nat.exists_eq_add_one.mpr (by omega)
    obtain ⟨wanted, rest, refused⟩ := fails fewer tail (by omega)
    exact ⟨wanted, rest, (operandAt_called known fewer _).trans refused⟩
  stands _ := .inr ⟨rfl, nofun⟩

/-- A call with too much in its parentheses is doomed, and a dead end. -/
theorem call_overfull (known : ScalarFunction.ofName? s = some function) {inside rest : List Token}
    {wanted : Wanted}
    (refused : called (expressionAt steps depth) (operandAt steps depth) function (inside ++ rest) =
      .error (.unexpected wanted rest))
    (fails : ∀ k tail, inside.length < k / 2 → ∃ wanted rest,
      called (expressionAt k depth) (operandAt k depth) function (inside ++ tail) =
        .error (.unexpected wanted rest))
    (overfull : Overfull
      (⟨.name s, lexeme, place⟩ :: ⟨.symbol .leftParen, lexeme', place'⟩ :: inside)) :
    OperandPrompt (steps + 1) depth
      (⟨.name s, lexeme, place⟩ :: ⟨.symbol .leftParen, lexeme', place'⟩ :: (inside ++ rest)) :=
  .stuck (⟨.name s, lexeme, place⟩ :: ⟨.symbol .leftParen, lexeme', place'⟩ :: inside)
    ((operandAt_called known _ _).trans refused) rfl
    (.stuck (call_doomed known fails) (.overfull overfull))

variable (inner : Inner (expressionAt steps depth) (fun k => expressionAt k depth) (· / 2))
  (operands : ∀ tokens, PromptAt (operandAt steps depth) (fun k => operandAt k depth) (· / 2)
    StartsOperand (Ends comparisonPrecedence) tokens)

/-- A call with surplus arguments is refused behind some of them, or at the limit on
nesting. -/
theorem call_surplus (known : ScalarFunction.ofName? s = some function)
    (arguments : ∀ position, Ready (argument (expressionAt steps depth) (operandAt steps depth)
      function position) (fun k => argument (expressionAt k depth) (operandAt k depth) function
        position) (· / 2) StartsArgument (Ends 1))
    {fewer position : Nat} {behind : List Token}
    (never : called (expressionAt steps depth) (operandAt steps depth) function tokens =
      surplus (argument (expressionAt steps depth) (operandAt steps depth) function) fewer position
        behind)
    (prompt : ∀ wanted before rest, behind = before ++ rest →
      called (expressionAt steps depth) (operandAt steps depth) function tokens =
        .error (.unexpected wanted rest) →
      OperandPrompt (steps + 1) depth
        (⟨.name s, lexeme, place⟩ :: ⟨.symbol .leftParen, lexeme', place'⟩ :: tokens)) :
    OperandPrompt (steps + 1) depth
      (⟨.name s, lexeme, place⟩ :: ⟨.symbol .leftParen, lexeme', place'⟩ :: tokens) := by
  obtain ⟨wanted, rest, refused⟩ :=
    surplus_fails (argumentAt_syntactic steps depth function) fewer position behind
  by_cases excused : wanted = .expression
  · subst excused
    exact .excused ((operandAt_called known _ _).trans (never.trans refused))
  · obtain ⟨before, split⟩ := surplus_refused arguments ends_comma refused excused
    exact prompt wanted before rest split (never.trans refused)

include inner operands

/-- A call of a function without arguments is prompt. -/
theorem call_none_prompt (known : ScalarFunction.ofName? s = some function)
    (none : function.arity = 0) :
    OperandPrompt (steps + 1) depth
      (⟨.name s, lexeme, place⟩ :: ⟨.symbol .leftParen, lexeme', place'⟩ :: tokens) := by
  by_cases here : front tokens = .symbol .rightParen
  · exact call_behind known (called_none_prompt here none _ _ _ _)
  · cases inner.offers with
    | inr shut =>
        exact .excused ((operandAt_called known _ _).trans
          (called_refused here (shut.refused 1 tokens)))
    | inl offers =>
        have arguments := argument_ready (inner.ready offers) operands function
        apply call_surplus known arguments (called_surplus here none)
        rintro wanted before rest rfl refused
        cases before with
        | nil => exact call_behind known (.refused refused (called_none_offers none _ _ _ _))
        | cons token before =>
            apply call_overfull known refused
            · intro k tail _
              have apart : front (token :: before ++ tail) ≠ .symbol .rightParen := here
              rw [called_surplus apart none]
              exact surplus_fails (argumentAt_syntactic k depth function) _ 0 _
            · exact .nullary Settled.nil rfl known none rfl here

omit inner operands in
/-- A comma behind the last argument of a function. -/
theorem called_exceeded {expression : Nat → Parser Expr} {operand : Parser Expr} {more : Nat}
    {values : List Expr} {comma : Token} {behind : List Token}
    (number : function.arity = more + 1) (some : front tokens ≠ .symbol .rightParen)
    (read : exactly (argument expression operand function) (tokens.length + 1) more 0 tokens =
      .ok (values, comma :: behind))
    (here : comma.terminal = .symbol .comma) :
    called expression operand function tokens =
      surplus (argument expression operand function) (tokens.length + 1 - (more + 1)) (more + 1)
        behind :=
  (called_eq some number).trans ((bind_of_ok read rfl).trans (closing_comma here))

omit inner operands in
/-- A call that goes on behind the last argument of its function is overfull. -/
theorem call_exceeded (known : ScalarFunction.ofName? s = some function) {more : Nat}
    (number : function.arity = more + 1)
    (arguments : ∀ position, Ready (argument (expressionAt steps depth) (operandAt steps depth)
      function position) (fun k => argument (expressionAt k depth) (operandAt k depth) function
        position) (· / 2) StartsArgument (Ends 1))
    (some : front tokens ≠ .symbol .rightParen) {values : List Expr} {rest : List Token}
    (read : exactly (argument (expressionAt steps depth) (operandAt steps depth) function)
      (tokens.length + 1) more 0 tokens = .ok (values, rest))
    (comma : front rest = .symbol .comma) :
    OperandPrompt (steps + 1) depth
      (⟨.name s, lexeme, place⟩ :: ⟨.symbol .leftParen, lexeme', place'⟩ :: tokens) := by
  obtain ⟨used, rfl, -, reads, stands⟩ := ((exactly_ready arguments ends_comma
    (tokens.length + 1) more 0).prompt tokens).resumes read
  have closed : Ends 1 (Token.mk (.symbol .rightParen) "" .start).terminal := ends_rightParen
  -- The arguments in front of the comma are read again, whatever ends the last one.
  have again (k : Nat) {next : Token} (tail : List Token) (enough : used.length < k / 2)
      (ending : Ends 1 next.terminal) :
      front (used ++ next :: tail) ≠ .symbol .rightParen ∧
        exactly (argument (expressionAt k depth) (operandAt k depth) function)
          ((used ++ next :: tail).length + 1) more 0 (used ++ next :: tail) =
            .ok (values, next :: tail) := by
    constructor
    · rcases stands (next :: tail) (.inl ending) with opening | ⟨same, -⟩
      · exact opening.ne_rightParen
      · rwa [same]
    · apply reads (k, (used ++ next :: tail).length + 1) (next :: tail) _ (.inl ending)
      dsimp only
      rw [List.length_append]
      omega
  cases rest with
  | nil => cases comma
  | cons token behind =>
      have separated : Ends 1 token.terminal := by
        rw [show token.terminal = _ from comma]
        exact ends_comma
      apply call_surplus known arguments (called_exceeded number some read comma)
      rintro wanted before rest rfl refused
      have split : used ++ token :: (before ++ rest) = used ++ token :: before ++ rest :=
        (List.append_assoc used (token :: before) rest).symm
      rw [split] at refused ⊢
      apply call_overfull known refused
      · intro k tail enough
        rw [List.length_append] at enough
        rw [List.append_assoc, List.cons_append]
        obtain ⟨apart, listed⟩ := again k (before ++ tail) (Nat.lt_of_add_right_lt enough) separated
        rw [called_exceeded number apart listed comma]
        exact surplus_fails (argumentAt_syntactic k depth function) _ _ _
      · obtain ⟨apart, listed⟩ := again (2 * used.length + 2) [] (by omega) closed
        obtain ⟨full, all⟩ := listFrom_of_exactly listed
        exact .exceeded .nil rfl known rfl rfl ((argumentList_eq apart).trans (all nofun))
          (full.trans number.symm) comma

/-- A call of a function with arguments is prompt. -/
theorem call_some_prompt (known : ScalarFunction.ofName? s = some function) {more : Nat}
    (number : function.arity = more + 1) :
    OperandPrompt (steps + 1) depth
      (⟨.name s, lexeme, place⟩ :: ⟨.symbol .leftParen, lexeme', place'⟩ :: tokens) := by
  cases inner.offers with
  | inr shut =>
      by_cases here : front tokens = .symbol .rightParen
      · -- At the limit on nesting the parenthesis was opened for nothing.
        apply PromptAt.stuck [⟨.name s, lexeme, place⟩, ⟨.symbol .leftParen, lexeme', place'⟩]
          ((operandAt_called known _ _).trans (called_few here number)) rfl
        apply Prospect.limited _ [] (Nat.zero_le _) rfl
        · intro k tail enough still
          obtain ⟨fewer, rfl⟩ : ∃ fewer, k = fewer + 1 := Nat.exists_eq_add_one.mpr (by omega)
          exact (operandAt_called known fewer tail).trans
            (called_refused still (shut.versions fewer 1 tail))
        · exact fun tail => .inr ⟨rfl, nofun⟩
        · refine call_doomed known fun k tail _ => ?_
          rw [List.nil_append]
          by_cases closed : front tail = .symbol .rightParen
          · exact ⟨_, _, called_few closed number⟩
          · exact ⟨_, _, called_refused closed (shut.versions k 1 tail)⟩
      · exact .excused ((operandAt_called known _ _).trans
          (called_refused here (shut.refused 1 tokens)))
  | inl offers =>
      have arguments := argument_ready (inner.ready offers) operands function
      by_cases here : front tokens = .symbol .rightParen
      · exact call_behind known
          (.refused (called_few here number) (called_offers arguments number _))
      · by_cases closes : ∀ values rest, exactly (argument (expressionAt steps depth)
          (operandAt steps depth) function) (tokens.length + 1) more 0 tokens = .ok (values, rest) →
            front rest ≠ .symbol .comma
        · exact call_behind known (called_prompt arguments number here closes _)
        · push Not at closes
          obtain ⟨values, rest, read, comma⟩ := closes
          exact call_exceeded known number arguments here read comma

end

end Grammar

end Relational
