import Relational.Grammar.Statement
import Relational.Proofs.Grammar.Reading

/-!
# Prompt parsers

A parser is prompt if it refuses at the first token that cannot be right: what it
has read before can be completed to something that it reads.  To complete what was
read is to parse other tokens, with other bounds on the recursion, so the notion is
about a parser at some tokens and a family of versions of it, each with room for so
many tokens.

Some beginnings cannot be completed, and are set apart.  At the limit on nesting an
opened parenthesis may have no content; a call may have all the arguments that its
function takes and still go on; and the word of an aggregate function may stand for the
name of a table where a parenthesis has to follow, which makes it a call.
-/

namespace Relational

namespace Grammar

/-! ### Beginnings -/

/-- The words behind which a name is never that of a function. -/
def introducesName : Terminal → Bool
  | .keyword .into => true
  | .keyword .table => true
  | .keyword .on => true
  | .keyword .references => true
  | _ => false

/-- Some tokens do not end with a word that introduces a name. -/
def Settled (used : List Token) : Prop :=
  ∀ token ∈ used.getLast?, introducesName token.terminal = false

/-- A beginning in which a call has more in front of its parenthesis than its function
takes: something at all, or a comma behind as many arguments. -/
inductive Overfull : List Token → Prop
  | nullary {before more : List Token} {name opening surplus : Token} {s : String}
      {function : ScalarFunction} (settled : Settled before) (named : name.terminal = .name s)
      (known : ScalarFunction.ofName? s = some function) (none : function.arity = 0)
      (opened : opening.terminal = .symbol .leftParen)
      (still : surplus.terminal ≠ .symbol .rightParen) :
      Overfull (before ++ name :: opening :: surplus :: more)
  | exceeded {before inside more : List Token} {name opening comma closing : Token} {s : String}
      {function : ScalarFunction} {steps depth : Nat} {arguments : List Expr}
      (settled : Settled before) (named : name.terminal = .name s)
      (known : ScalarFunction.ofName? s = some function)
      (opened : opening.terminal = .symbol .leftParen)
      (closed : closing.terminal = .symbol .rightParen)
      (complete : argumentList (expressionAt steps depth) (operandAt steps depth) function
        (inside ++ [closing]) = .ok (arguments, [closing]))
      (full : arguments.length = function.arity) (continued : comma.terminal = .symbol .comma) :
      Overfull (before ++ name :: opening :: (inside ++ comma :: more))

/-- A beginning that ends with the word of an aggregate function as the name of a table. -/
inductive Misnamed : List Token → Prop
  | table {before : List Token} {introduction name : Token} {word : Keyword}
      (introduced : introducesName introduction.terminal)
      (named : name.terminal = .keyword word) (aggregate : word.isAggregate) :
      Misnamed (before ++ [introduction, name])

/-- A beginning that cannot be completed at any level of nesting. -/
inductive DeadEnd (before : List Token) : Prop
  | overfull (call : Overfull before)
  | misnamed (table : Misnamed before)

/-- What may stand in place of the tokens behind something that was read: a
terminal that ends it, or what stood there as far as a parser looks ahead. -/
def Stands (ends : Terminal → Prop) (rest tail : List Token) : Prop :=
  ends (front tail) ∨
    front tail = front rest ∧ (front rest = .keyword .not → front tail.tail = front rest.tail)

/-- Whatever was read in front of the ends of a parser has at least so many tokens. -/
def Consumes (least : Nat) (opens ends : Terminal → Prop) (tokens : List Token) : Prop :=
  ∀ used, (∀ tail, ends (front tail) → Stands opens tokens (used ++ tail)) → least ≤ used.length

variable {ends opens : Terminal → Prop} {used before rest tail : List Token}

theorem Settled.nil : Settled [] :=
  nofun

/-- Tokens that end with a plain one do not end with a word that introduces a name. -/
theorem Settled.concat (used : List Token) {token : Token}
    (plain : introducesName token.terminal = false) : Settled (used ++ [token]) := by
  intro other last
  rw [List.getLast?_concat] at last
  cases last
  exact plain

theorem Settled.singleton {token : Token} (plain : introducesName token.terminal = false) :
    Settled [token] :=
  .concat [] plain

/-- A beginning does not end with a word that introduces a name if its parts do not. -/
theorem Settled.append (settled : Settled used) (settled' : Settled before) :
    Settled (used ++ before) := by
  intro token last
  rw [List.getLast?_append] at last
  cases found : before.getLast? with
  | none =>
      rw [found, Option.none_or] at last
      exact settled token last
  | some other =>
      rw [found, Option.some_or] at last
      exact settled' token (found ▸ last)

/-- A call that has too much in its parentheses keeps it behind other tokens. -/
theorem Overfull.behind (overfull : Overfull before) (settled : Settled used) :
    Overfull (used ++ before) := by
  cases overfull with
  | nullary settled' named known none opened still =>
      rw [← List.append_assoc]
      exact .nullary (settled.append settled') named known none opened still
  | exceeded settled' named known opened closed complete full continued =>
      rw [← List.append_assoc]
      exact .exceeded (settled.append settled') named known opened closed complete full continued

/-- A word in the place of a table's name is in this place behind other tokens, too. -/
theorem Misnamed.behind (misnamed : Misnamed before) : Misnamed (used ++ before) := by
  obtain ⟨introduced, named, aggregate⟩ := misnamed
  rw [← List.append_assoc]
  exact .table introduced named aggregate

/-- A dead end is one behind other tokens, too. -/
theorem DeadEnd.behind (dead : DeadEnd before) (settled : Settled used) :
    DeadEnd (used ++ before) := by
  cases dead with
  | overfull call => exact .overfull (call.behind settled)
  | misnamed table => exact .misnamed table.behind

theorem Stands.refl (ends : Terminal → Prop) (rest : List Token) : Stands ends rest rest :=
  .inr ⟨rfl, fun _ => rfl⟩

theorem Stands.imp {wider : Terminal → Prop} (stands : Stands ends rest tail)
    (wide : ∀ terminal, ends terminal → wider terminal) : Stands wider rest tail :=
  stands.imp_left (wide _)

/-- The last token of a beginning is the last one behind other tokens, too. -/
theorem opened_behind {terminal : Terminal}
    (opened : before.getLast?.map Token.terminal = some terminal) :
    (used ++ before).getLast?.map Token.terminal = some terminal := by
  rw [List.getLast?_append]
  cases last : before.getLast? with
  | none =>
      rw [last] at opened
      cases opened
  | some closing =>
      rw [last] at opened
      exact opened

/-! ### Completions -/

section

variable {κ α : Type}

/-- What a parser returns that has nothing left to ask for: a value, or the complaint
that a declaration contradicts itself. -/
def finished (outcome : Except Error α) (tail : List Token) :
    Except Refusal (α × List Token) :=
  match outcome with
  | .ok value => .ok (value, tail)
  | .error error => .error (.badSchema error)

/-- An outcome is not the complaint about a text that is no statement. -/
def Innocent (outcome : Except Error α) : Prop :=
  ∀ fault, outcome ≠ .error (.syntaxFault fault)

/-- A value is followed by what ends it, and a complaint by anything. -/
def Behind (ends : Terminal → Prop) (outcome : Except Error α) (tail : List Token) : Prop :=
  outcome.isOk → ends (front tail)

/-- A beginning that is refused for its syntax, whatever follows. -/
structure Doomed (again : κ → Parser α) (room : κ → Nat) (opens : Terminal → Prop)
    (tokens before : List Token) : Prop where
  fails : ∀ k tail, before.length < room k →
    ∃ wanted rest, again k (before ++ tail) = .error (.unexpected wanted rest)
  stands : ∀ tail, Stands opens tokens (before ++ tail)

/-- What can become of a beginning that a parser refused to go on from.  It can be
completed, and then is read whatever follows; or it is doomed, since it opens a parenthesis
at the limit on nesting or is a dead end. -/
inductive Prospect (again : κ → Parser α) (room : κ → Nat) (opens ends : Terminal → Prop)
    (tokens before : List Token) : Prop
  | completes (extra : List Token) (outcome : Except Error α) (innocent : Innocent outcome)
      (reads : ∀ k tail, (before ++ extra).length < room k → Behind ends outcome tail →
        again k (before ++ extra ++ tail) = finished outcome tail)
      (stands : ∀ tail, Behind ends outcome tail → Stands opens tokens (before ++ extra ++ tail))
  | limited (doomed : Doomed again room opens tokens before) (opening : List Token)
      (short : opening.length ≤ 1)
      (opened : (before ++ opening).getLast?.map Token.terminal = some (.symbol .leftParen))
      (fails : ∀ k tail, (before ++ opening).length < room k → front tail ≠ .symbol .rightParen →
        again k (before ++ opening ++ tail) = .error (.unexpected .expression tail))
      (stands : ∀ tail, Stands opens tokens (before ++ opening ++ tail))
  | stuck (doomed : Doomed again room opens tokens before) (dead : DeadEnd before)

/-- What a parser reads of some tokens is read again wherever it may stand, by every
version that has room for it; and what it refuses to go on from has a prospect.  The
first terminal of what is read, or of a completion, opens it or was there before. -/
structure PromptAt (parser : Parser α) (again : κ → Parser α) (room : κ → Nat)
    (opens ends : Terminal → Prop) (tokens : List Token) : Prop where
  resumes : ∀ {value rest}, parser tokens = .ok (value, rest) → ∃ used, tokens = used ++ rest ∧
    Settled used ∧
    (∀ k tail, used.length < room k → Stands ends rest tail →
      again k (used ++ tail) = .ok (value, tail)) ∧
    ∀ tail, Stands ends rest tail → Stands opens tokens (used ++ tail)
  refuses : ∀ {wanted rest}, parser tokens = .error (.unexpected wanted rest) →
    wanted ≠ .expression →
      ∃ before, tokens = before ++ rest ∧ Prospect again room opens ends tokens before

/-- Something that a parser reads, whatever stands in front of it. -/
def Offers (again : κ → Parser α) (room : κ → Nat) (opens ends : Terminal → Prop) : Prop :=
  ∃ extra outcome, Innocent outcome ∧
    (∀ k tail, extra.length < room k → Behind ends outcome tail →
      again k (extra ++ tail) = finished outcome tail) ∧
    ∀ tail, Behind ends outcome tail → opens (front (extra ++ tail))

/-- A value that every version of a parser reads of some tokens. -/
def Possible (again : κ → Parser α) (room : κ → Nat) (ends : Terminal → Prop) (value : α) : Prop :=
  ∃ used, ∀ k tail, used.length < room k → ends (front tail) →
    again k (used ++ tail) = .ok (value, tail)

/-- A value is no complaint. -/
theorem innocent_ok (value : α) : Innocent (.ok value) :=
  nofun

theorem Behind.imp {follow : Terminal → Prop} {outcome : Except Error α}
    (behind : Behind ends outcome tail) (narrow : ∀ terminal, ends terminal → follow terminal) :
    Behind follow outcome tail :=
  fun done => narrow _ (behind done)

theorem Behind.ok {value : α} (behind : Behind ends (.ok value) tail) : ends (front tail) :=
  behind rfl

theorem behind_error (ends : Terminal → Prop) (error : Error) (tail : List Token) :
    Behind ends (.error error : Except Error α) tail :=
  nofun

variable {κ' β : Type} {parser : Parser α} {again : κ → Parser α} {room : κ → Nat}
  {tokens : List Token} {value : α} {wanted : Wanted} {token : Token}
  {leads follow : Terminal → Prop}

/-- A beginning is doomed for every parser of which some version reads it in the same
way. -/
theorem Doomed.transfer {again' : κ' → Parser α} {room' : κ' → Nat}
    (doomed : Doomed again' room' leads tokens before)
    (version : ∀ k used, used.length < room k → ∀ tail, Stands leads tokens (used ++ tail) →
      ∃ k', used.length < room' k' ∧ again k (used ++ tail) = again' k' (used ++ tail))
    (wide : ∀ terminal, leads terminal → opens terminal) :
    Doomed again room opens tokens before where
  fails k tail enough := by
    obtain ⟨k', enough', version_eq⟩ := version k before enough tail (doomed.stands tail)
    rw [version_eq]
    exact doomed.fails k' tail enough'
  stands tail := (doomed.stands tail).imp wide

namespace PromptAt

/-- Refusals at the limit on nesting are excused. -/
theorem excused (refused : parser tokens = .error (.unexpected .expression rest)) :
    PromptAt parser again room opens ends tokens where
  resumes read := by
    rw [refused] at read
    cases read
  refuses refused' other := by
    rw [refused] at refused'
    cases refused'
    exact absurd rfl other

/-- A parser is prompt where it complains about a declaration. -/
theorem contradicted {error : Error} (refused : parser tokens = .error (.badSchema error)) :
    PromptAt parser again room opens ends tokens where
  resumes read := by
    rw [refused] at read
    cases read
  refuses refused' _ := by
    rw [refused] at refused'
    cases refused'

/-- A parser is prompt where what it refused to go on from has a prospect. -/
theorem stuck (before : List Token) (refused : parser tokens = .error (.unexpected wanted rest))
    (split : tokens = before ++ rest)
    (prospect : Prospect again room opens ends tokens before) :
    PromptAt parser again room opens ends tokens where
  resumes read := by
    rw [refused] at read
    cases read
  refuses refused' _ := by
    rw [refused] at refused'
    cases refused'
    exact ⟨before, split, prospect⟩

/-- A parser may refuse the first token if it offers something else. -/
theorem refused (refused : parser tokens = .error (.unexpected wanted tokens))
    (offers : Offers again room opens ends) : PromptAt parser again room opens ends tokens := by
  obtain ⟨extra, outcome, innocent, reads, leads⟩ := offers
  apply stuck [] refused rfl
  exact .completes extra outcome innocent reads fun tail ending => .inl (leads tail ending)

/-- A parser is prompt where it reads nothing. -/
theorem done (read : parser tokens = .ok (value, tokens))
    (reads : ∀ k tail, 0 < room k → Stands ends tokens tail → again k tail = .ok (value, tail))
    (wide : ∀ terminal, ends terminal → opens terminal) :
    PromptAt parser again room opens ends tokens where
  resumes read' := by
    rw [read] at read'
    cases read'
    exact ⟨[], rfl, .nil, reads, fun tail stands => stands.imp wide⟩
  refuses refused := by
    rw [read] at refused
    cases refused

/-- Promptness is kept if every version reads some tokens as one of before does that
has room for them. -/
theorem transfer {parser' : Parser α} {again' : κ' → Parser α} {room' : κ' → Nat}
    (prompt : PromptAt parser' again' room' leads follow tokens)
    (same : parser tokens = parser' tokens)
    (version : ∀ k used, used.length < room k → ∀ tail, Stands leads tokens (used ++ tail) →
      ∃ k', used.length < room' k' ∧ again k (used ++ tail) = again' k' (used ++ tail))
    (wide : ∀ terminal, leads terminal → opens terminal)
    (narrow : ∀ terminal, ends terminal → follow terminal) :
    PromptAt parser again room opens ends tokens where
  resumes read := by
    rw [same] at read
    obtain ⟨used, split, settled, reads, stands⟩ := prompt.resumes read
    refine ⟨used, split, settled, ?_, fun tail ending => (stands tail (ending.imp narrow)).imp wide⟩
    intro k tail enough ending
    obtain ⟨k', enough', version_eq⟩ := version k used enough tail (stands tail (ending.imp narrow))
    rw [version_eq]
    exact reads k' tail enough' (ending.imp narrow)
  refuses refused other := by
    rw [same] at refused
    obtain ⟨before, split, prospect⟩ := prompt.refuses refused other
    refine ⟨before, split, ?_⟩
    cases prospect with
    | completes extra outcome innocent reads stands =>
        refine .completes extra outcome innocent ?_
          fun tail ending => (stands tail (ending.imp narrow)).imp wide
        intro k tail enough ending
        obtain ⟨k', enough', version_eq⟩ :=
          version k _ enough tail (stands tail (ending.imp narrow))
        rw [version_eq]
        exact reads k' tail enough' (ending.imp narrow)
    | limited doomed opening short opened fails stands =>
        refine .limited (doomed.transfer version wide) opening short opened ?_
          fun tail => (stands tail).imp wide
        intro k tail enough still
        obtain ⟨k', enough', version_eq⟩ := version k _ enough tail (stands tail)
        rw [version_eq]
        exact fails k' tail enough' still
    | stuck doomed dead => exact .stuck (doomed.transfer version wide) dead

/-- Parsers that do the same here and wherever the first terminal is one that opens
them are prompt alike. -/
theorem congr {parser' : Parser α} {again' : κ → Parser α}
    (prompt : PromptAt parser' again' room leads ends tokens)
    (same : parser tokens = parser' tokens)
    (alike : ∀ k tokens', 0 < room k → Stands leads tokens tokens' →
      again k tokens' = again' k tokens')
    (wide : ∀ terminal, leads terminal → opens terminal) :
    PromptAt parser again room opens ends tokens :=
  prompt.transfer same
    (fun k _ enough _ stands => ⟨k, enough, alike k _ (Nat.zero_lt_of_lt enough) stands⟩) wide
    fun _ ending => ending

/-- What is prompt for versions with more room, fewer openings or more ends. -/
theorem weaken {room' : κ → Nat} (prompt : PromptAt parser again room' leads follow tokens)
    (fits : ∀ k, room k ≤ room' k) (wide : ∀ terminal, leads terminal → opens terminal)
    (narrow : ∀ terminal, ends terminal → follow terminal) :
    PromptAt parser again room opens ends tokens :=
  prompt.transfer rfl (fun k _ enough _ _ => ⟨k, Nat.lt_of_lt_of_le enough (fits k), rfl⟩) wide
    narrow

/-- The versions may be named in another way. -/
theorem reindex (prompt : PromptAt parser again room opens ends tokens) (name : κ' → κ) :
    PromptAt parser (fun k => again (name k)) (fun k => room (name k)) opens ends tokens :=
  prompt.transfer rfl (fun k _ enough _ _ => ⟨name k, enough, rfl⟩) (fun _ opening => opening)
    fun _ ending => ending

/-- A bound on the steps of a loop may be counted from the tokens. -/
theorem sized {loop : Parser α} (again : κ → Nat → Parser α)
    (prompt : PromptAt loop (fun k : κ × Nat => again k.1 k.2) (fun k => min (room k.1) k.2)
      opens ends tokens) (same : parser tokens = loop tokens) :
    PromptAt parser (fun k tokens => again k (tokens.length + 1) tokens) room opens ends
      tokens := by
  apply prompt.transfer same _ (fun _ opening => opening) fun _ ending => ending
  intro k used enough tail _
  refine ⟨(k, (used ++ tail).length + 1), ?_, rfl⟩
  dsimp only
  rw [List.length_append]
  omega

/-- A parser that reads some tokens and goes on with a prompt one. -/
theorem behind {parser' : Parser α} {again' : κ → Parser α} {room' : κ → Nat} (leading : List Token)
    (prompt : PromptAt parser' again' room' leads ends tokens)
    (same : parser (leading ++ tokens) = parser' tokens)
    (alike : ∀ k tokens', 0 < room k → Stands leads tokens tokens' →
      again k (leading ++ tokens') = again' k tokens')
    (fits : ∀ k, room k ≤ room' k + leading.length) (settled : Settled leading)
    (stands : ∀ tail, Stands leads tokens tail →
      Stands opens (leading ++ tokens) (leading ++ tail)) :
    PromptAt parser again room opens ends (leading ++ tokens) := by
  have again_eq : ∀ k used tail, (leading ++ used).length < room k →
      Stands leads tokens (used ++ tail) →
        again k (leading ++ used ++ tail) = again' k (used ++ tail) ∧ used.length < room' k := by
    intro k used tail enough standing
    have bound := fits k
    rw [List.length_append] at enough
    rw [List.append_assoc]
    exact ⟨alike k _ (Nat.zero_lt_of_lt enough) standing, by omega⟩
  have stands' : ∀ {used tail}, Stands leads tokens (used ++ tail) →
      Stands opens (leading ++ tokens) (leading ++ used ++ tail) := by
    intro used tail standing
    rw [List.append_assoc]
    exact stands _ standing
  have doomed' : ∀ {before}, Doomed again' room' leads tokens before →
      Doomed again room opens (leading ++ tokens) (leading ++ before) := by
    refine fun doomed => ⟨fun k tail enough => ?_, fun tail => stands' (doomed.stands tail)⟩
    obtain ⟨shifted, enough⟩ := again_eq k _ tail enough (doomed.stands tail)
    rw [shifted]
    exact doomed.fails k tail enough
  constructor
  · intro value rest read
    rw [same] at read
    obtain ⟨used, rfl, settled', reads, standing⟩ := prompt.resumes read
    refine ⟨leading ++ used, (List.append_assoc _ _ _).symm, settled.append settled', ?_, ?_⟩
    · intro k tail enough ending
      obtain ⟨shifted, enough⟩ := again_eq k used tail enough (standing tail ending)
      rw [shifted]
      exact reads k tail enough ending
    · exact fun tail ending => stands' (standing tail ending)
  · intro wanted rest refused other
    rw [same] at refused
    obtain ⟨before, rfl, prospect⟩ := prompt.refuses refused other
    refine ⟨leading ++ before, (List.append_assoc _ _ _).symm, ?_⟩
    cases prospect with
    | completes extra outcome innocent reads standing =>
        refine .completes extra outcome innocent ?_ ?_
        · intro k tail enough ending
          rw [List.append_assoc leading] at enough ⊢
          obtain ⟨shifted, enough⟩ := again_eq k (before ++ extra) tail enough
            (standing tail ending)
          rw [shifted]
          exact reads k tail enough ending
        · intro tail ending
          rw [List.append_assoc leading]
          exact stands' (standing tail ending)
    | limited doomed opening short opened fails standing =>
        refine .limited (doomed' doomed) opening short ?_ ?_ ?_
        · rw [List.append_assoc]
          exact opened_behind opened
        · intro k tail enough still
          rw [List.append_assoc leading] at enough ⊢
          obtain ⟨shifted, enough⟩ := again_eq k (before ++ opening) tail enough (standing tail)
          rw [shifted]
          exact fails k tail enough still
        · intro tail
          rw [List.append_assoc leading]
          exact stands' (standing tail)
    | stuck doomed dead => exact .stuck (doomed' doomed) (dead.behind settled)

/-- A parser that reads a first token and goes on with a prompt one. -/
theorem shift {parser' : Parser α} {again' : κ → Parser α} {room' : κ → Nat}
    (prompt : PromptAt parser' again' room' leads ends tokens)
    (same : parser (token :: tokens) = parser' tokens)
    (alike : ∀ k tokens', 0 < room k → Stands leads tokens tokens' →
      again k (token :: tokens') = again' k tokens')
    (fits : ∀ k, room k ≤ room' k + 1) (plain : introducesName token.terminal = false)
    (leading : opens token.terminal ∨ token.terminal ≠ .keyword .not) :
    PromptAt parser again room opens ends (token :: tokens) := by
  apply prompt.behind [token] same alike fits (.singleton plain)
  intro tail _
  cases leading with
  | inl opening => exact .inl opening
  | inr different => exact .inr ⟨rfl, fun same => absurd same different⟩

/-- A parser that takes a token, whatever it is. -/
theorem advanced (value : α) (plain : introducesName token.terminal = false)
    (positive : token.terminal ≠ .keyword .not) (room : κ → Nat) (ends : Terminal → Prop) :
    PromptAt (advance >>= fun _ => Pure.pure value) (fun _ => advance >>= fun _ => Pure.pure value)
      room (fun _ => False) ends (token :: tokens) := by
  have nothing : PromptAt (Pure.pure value) (fun _ => Pure.pure value) room ends ends tokens :=
    .done rfl (fun _ _ _ _ => rfl) fun _ ending => ending
  exact nothing.shift rfl (fun _ _ _ _ => rfl) (fun _ => Nat.le_succ _) plain (.inr positive)

end PromptAt

end

end Grammar

end Relational
