import Relational.Proofs.Grammar.Prompt.Sequence

/-!
# Parsers that are ready

A parser is ready if it is prompt at any tokens and offers something of its own, so that
it may stand behind any other.  The basic parsers are ready, and loops and options of
ready parsers.
-/

namespace Relational

namespace Grammar

variable {κ κ' α β : Type} {parser : Parser α} {again : κ → Parser α} {room : κ → Nat}
  {tokens used before rest tail : List Token} {value : α} {token : Token}
  {ends opens leads follow : Terminal → Prop}

/-- A parser that is prompt at any tokens and offers something of its own. -/
structure Ready (parser : Parser α) (again : κ → Parser α) (room : κ → Nat)
    (opens ends : Terminal → Prop) : Prop where
  prompt : ∀ tokens, PromptAt parser again room opens ends tokens
  offers : Offers again room opens ends

/-- The terminals that may stand for a name. -/
def StartsName : Terminal → Prop
  | .name _ => True
  | .keyword word => word.mayBeName
  | _ => False

/-- A terminal that is not there is not accepted. -/
theorem accept_of_ne {terminal : Terminal} (different : front tokens ≠ terminal) :
    accept terminal tokens = .ok (false, tokens) := by
  cases tokens with
  | nil => rfl
  | cons token tokens => exact if_neg different

theorem accept_cons {terminal : Terminal} (here : token.terminal = terminal) :
    accept terminal (token :: tokens) = .ok (true, tokens) :=
  if_pos here

/-- A terminal that is not there is refused. -/
theorem expect_of_ne {terminal : Terminal} (different : front tokens ≠ terminal) :
    expect terminal tokens = .error (.unexpected (.terminal terminal) tokens) := by
  cases tokens with
  | nil => rfl
  | cons token tokens => exact if_neg different

theorem expect_cons {terminal : Terminal} (here : token.terminal = terminal) :
    expect terminal (token :: tokens) = .ok ((), tokens) :=
  if_pos here

/-- A terminal that was taken was there. -/
theorem exists_of_expect {terminal : Terminal} {found : Unit}
    (read : expect terminal tokens = .ok (found, rest)) :
    ∃ token, token.terminal = terminal ∧ tokens = token :: rest := by
  by_cases here : front tokens = terminal
  · cases tokens with
    | nil => cases read
    | cons token tokens =>
        rw [expect_cons here] at read
        cases read
        exact ⟨token, here, rfl⟩
  · rw [expect_of_ne here] at read
    cases read

/-- A keyword as a name. -/
theorem name_keyword (word : Keyword) (lexeme : String) (place : Place) (tokens : List Token) :
    name (⟨.keyword word, lexeme, place⟩ :: tokens) =
      if word.mayBeName && !(word.isAggregate && front tokens == .symbol .leftParen) then
        .ok (lexeme, tokens)
      else
        .error (.unexpected (.terminal (.name "")) (⟨.keyword word, lexeme, place⟩ :: tokens)) := by
  change (if word.mayBeName && !(word.isAggregate && front tokens == .symbol .leftParen) then
    advance else Parser.refuse _ : Parser String) _ = _
  split <;> rfl

/-- A keyword that may be a name introduces none. -/
theorem plain_of_mayBeName {word : Keyword} (mayBe : word.mayBeName) :
    introducesName (.keyword word) = false := by
  cases word with
  | into | table | on | references => cases mayBe
  | _ => rfl

namespace Ready

theorem pure (value : α) (room : κ → Nat) (ends : Terminal → Prop) :
    Ready (Pure.pure value) (fun _ => Pure.pure value) room ends ends where
  prompt _ := .done rfl (fun _ _ _ _ => rfl) fun _ ending => ending
  offers := .done value (fun _ _ _ _ => rfl) fun _ ending => ending

/-- A parser that is ready is so with more openings and fewer ends. -/
theorem weaken (ready : Ready parser again room leads follow)
    (wide : ∀ terminal, leads terminal → opens terminal)
    (narrow : ∀ terminal, ends terminal → follow terminal) :
    Ready parser again room opens ends where
  prompt tokens := (ready.prompt tokens).weaken (fun _ => Nat.le_refl _) wide narrow
  offers := ready.offers.weaken (fun _ => Nat.le_refl _) wide narrow

/-- A parser that is ready is so with less room. -/
theorem fewer {room' : κ → Nat} (ready : Ready parser again room' opens ends)
    (fits : ∀ k, room k ≤ room' k) : Ready parser again room opens ends where
  prompt tokens := (ready.prompt tokens).weaken fits (fun _ opening => opening)
    fun _ ending => ending
  offers := ready.offers.weaken fits (fun _ opening => opening) fun _ ending => ending

theorem reindex (ready : Ready parser again room opens ends) (name : κ' → κ) :
    Ready parser (fun k => again (name k)) (fun k => room (name k)) opens ends :=
  ⟨fun tokens => (ready.prompt tokens).reindex name, ready.offers.reindex name⟩

/-- A parser may do its first step, or refuse everything for want of steps. -/
theorem unrolled {parser' : Parser α} {again' : κ → Parser α}
    (ready : Ready parser' again' room opens ends)
    (same : parser = parser' ∨
      ∀ tokens, ∃ rest, parser tokens = .error (.unexpected .expression rest))
    (alike : ∀ k, 0 < room k → again k = again' k) : Ready parser again room opens ends where
  prompt tokens := by
    cases same with
    | inl same =>
        apply (ready.prompt tokens).congr (congrFun same tokens) _ fun _ opening => opening
        exact fun k tokens' enough _ => congrFun (alike k enough) tokens'
    | inr refused =>
        obtain ⟨rest, refused⟩ := refused tokens
        exact .excused refused
  offers := ready.offers.congr (fun k tokens enough _ => congrFun (alike k enough) tokens)
    fun _ opening => opening

/-- Two parsers are ready in turn if what follows meets the ends of the first. -/
theorem bind {next : α → Parser β} {again' : κ → α → Parser β}
    (ready : Ready parser again room opens leads)
    (continues : ∀ value, Ready (next value) (fun k => again' k value) room follow ends)
    (meets : ∀ terminal, follow terminal → leads terminal) :
    Ready (parser >>= next) (fun k => again k >>= again' k) room opens ends where
  prompt tokens := (ready.prompt tokens).bind (fun value rest _ => (continues value).prompt rest)
    (fun value => (continues value).offers) meets fun _ => ⟨Nat.le_refl _, Nat.le_refl _⟩
  offers := ready.offers.bind (fun value => (continues value).offers) meets
    fun _ => ⟨Nat.le_refl _, Nat.le_refl _⟩

/-- The last step turns what was read into a result. -/
theorem last (change : α → β) (ready : Ready parser again room opens ends) :
    Ready (parser >>= fun value => Pure.pure (change value))
      (fun k => again k >>= fun value => Pure.pure (change value)) room opens ends :=
  ready.bind (fun value => .pure (change value) room ends) fun _ ending => ending

variable {terminal : Terminal}

/-- The terminal that is asked for takes up one token of the room. -/
theorem expecting_fits {next : Unit → Parser α} {again : κ → Unit → Parser α} {room' : κ → Nat}
    (continues : Ready (next ()) (fun k => again k ()) room' leads ends)
    (fits : ∀ k, room k ≤ room' k + 1) (plain : introducesName terminal = false) :
    Ready (expect terminal >>= next) (fun k => expect terminal >>= again k) room (· = terminal)
      ends := by
  have stepped : ∀ {next : Unit → Parser α} {token tokens}, token.terminal = terminal →
      (expect terminal >>= next) (token :: tokens) = next () tokens :=
    fun here => bind_of_ok (expect_cons here) rfl
  have offers : Offers (fun k => expect terminal >>= again k) room (· = terminal) ends :=
    continues.offers.shift ⟨terminal, "", .start⟩ (fun _ _ _ _ => stepped rfl) fits rfl
  refine ⟨fun tokens => ?_, offers⟩
  cases tokens with
  | nil => exact .refused (bind_of_error rfl) offers
  | cons token tokens =>
      by_cases here : token.terminal = terminal
      · exact (continues.prompt tokens).shift (stepped here) (fun _ _ _ _ => stepped here)
          fits (by rwa [← here] at plain) (.inl here)
      · exact .refused (bind_of_error (expect_of_ne here)) offers

/-- A plain terminal in front keeps a parser ready. -/
theorem expecting {next : Unit → Parser α} {again : κ → Unit → Parser α}
    (continues : Ready (next ()) (fun k => again k ()) room leads ends)
    (plain : introducesName terminal = false) :
    Ready (expect terminal >>= next) (fun k => expect terminal >>= again k) room (· = terminal)
      ends :=
  continues.expecting_fits (fun _ => Nat.le_succ _) plain

/-- A terminal is the last thing that a parser asks for. -/
theorem expected (terminal : Terminal) (value : α) (plain : introducesName terminal = false)
    (room : κ → Nat) (ends : Terminal → Prop) :
    Ready (expect terminal >>= fun _ => Pure.pure value)
      (fun _ => expect terminal >>= fun _ => Pure.pure value) room (· = terminal) ends := by
  apply expecting _ plain
  · exact ends
  · exact .pure value room ends

/-- An optional terminal, with one way to go on behind it and one without it. -/
theorem accepting {next : Bool → Parser α} {again : κ → Bool → Parser α} {room' : κ → Nat}
    (present : ∀ tokens, PromptAt (next true) (fun k => again k true) room' leads ends tokens)
    (absent : Ready (next false) (fun k => again k false) room follow ends)
    (fits : ∀ k, room k ≤ room' k + 1)
    (plain : introducesName terminal = false) (inside : terminal ≠ .endOfInput)
    (apart : ¬follow terminal) :
    Ready (accept terminal >>= next) (fun k => accept terminal >>= again k) room
      (fun first => first = terminal ∨ follow first) ends := by
  have without : ∀ {next : Bool → Parser α} {tokens}, front tokens ≠ terminal →
      (accept terminal >>= next) tokens = next false tokens :=
    fun different => bind_of_ok (accept_of_ne different) rfl
  have within : ∀ {next : Bool → Parser α} {token tokens}, token.terminal = terminal →
      (accept terminal >>= next) (token :: tokens) = next true tokens :=
    fun here => bind_of_ok (accept_cons here) rfl
  constructor
  · intro tokens
    have otherwise (different : front tokens ≠ terminal) : PromptAt (accept terminal >>= next)
        (fun k => accept terminal >>= again k) room (fun first => first = terminal ∨ follow first)
        ends tokens := by
      apply (absent.prompt tokens).congr (without different) _ fun _ => .inr
      intro k tokens' _ stands
      apply without
      intro here
      rcases stands with opening | ⟨same, -⟩
      · exact apart (here ▸ opening)
      · exact different (same ▸ here)
    cases tokens with
    | nil => exact otherwise fun same => inside same.symm
    | cons token tokens =>
        by_cases here : token.terminal = terminal
        · apply (present tokens).shift (within here) (fun _ _ _ _ => within here) fits
          · rwa [here]
          · exact .inl (.inl here)
        · exact otherwise here
  · apply absent.offers.congr _ fun _ => .inr
    intro k tokens _ opening
    exact without fun here => apart (here ▸ opening)

/-- A name, in front of anything but a parenthesis. -/
theorem name (room : κ → Nat) :
    Ready Grammar.name (fun _ => Grammar.name) room StartsName (· ≠ .symbol .leftParen) := by
  have offers : Offers (fun _ => Grammar.name) room StartsName (· ≠ .symbol .leftParen) :=
    .reading [⟨.name "x", "", .start⟩] "x" (fun _ _ _ _ => rfl) fun _ _ => trivial
  have one (s : String) := (Ready.pure s room (· ≠ .symbol .leftParen)).prompt
  refine ⟨fun tokens => ?_, offers⟩
  cases tokens with
  | nil => exact .refused rfl offers
  | cons token tokens =>
      obtain ⟨terminal, lexeme, place⟩ := token
      cases terminal with
      | name s =>
          exact (one s tokens).shift rfl (fun _ _ _ _ => rfl) (fun _ => Nat.le_succ _) rfl
            (.inl trivial)
      | keyword word =>
          by_cases named :
            word.mayBeName && !(word.isAggregate && front tokens == .symbol .leftParen)
          · have mayBe : word.mayBeName := (Bool.and_eq_true_iff.mp named).1
            apply (one lexeme tokens).shift
              ((name_keyword word lexeme place tokens).trans (if_pos named))
            · intro k tokens' _ stands
              apply (name_keyword word lexeme place tokens').trans (if_pos _)
              rcases stands with apart | ⟨same, -⟩
              · rw [mayBe, beq_false_of_ne apart, Bool.and_false]
                rfl
              · rwa [same]
            · exact fun _ => Nat.le_succ _
            · exact plain_of_mayBeName mayBe
            · exact .inl mayBe
          · exact .refused ((name_keyword word lexeme place tokens).trans (if_neg named)) offers
      | _ => exact .refused rfl offers

/-- Natural numbers are ready. -/
theorem natural (room : κ → Nat) :
    Ready Grammar.natural (fun _ => Grammar.natural) room (fun first => ∃ n, first = .integer n)
      fun _ => True := by
  have offers : Offers (fun _ => Grammar.natural) room (fun first => ∃ n, first = .integer n)
      fun _ => True :=
    .reading [⟨.integer 0, "", .start⟩] 0 (fun _ _ _ _ => rfl) fun _ _ => ⟨0, rfl⟩
  have stepped : ∀ {n : Int64} {lexeme place}, 0 ≤ n → ∀ tokens,
      Grammar.natural (⟨.integer n, lexeme, place⟩ :: tokens) = .ok (n.toInt.toNat, tokens) := by
    intro n lexeme place nonnegative tokens
    change (if 0 ≤ n then _ else _ : Parser Nat) _ = _
    rw [if_pos nonnegative]
    rfl
  refine ⟨fun tokens => ?_, offers⟩
  cases tokens with
  | nil => exact .refused rfl offers
  | cons token tokens =>
      obtain ⟨terminal, lexeme, place⟩ := token
      cases terminal with
      | integer n =>
          by_cases nonnegative : 0 ≤ n
          · apply ((Ready.pure n.toInt.toNat room fun _ => True).prompt tokens).shift
              (stepped nonnegative tokens)
            · exact fun _ tokens' _ _ => stepped nonnegative tokens'
            · exact fun _ => Nat.le_succ _
            · rfl
            · exact .inl ⟨n, rfl⟩
          · apply PromptAt.refused _ offers
            · exact .terminal (.integer 0)
            · change (if 0 ≤ n then _ else _ : Parser Nat) _ = _
              rw [if_neg nonnegative]
              rfl
      | _ => exact .refused rfl offers

/-- An optional part is ready if its content is. -/
theorem optional {content : Parser α} {again : κ → Parser α} {word : Keyword}
    (ready : Ready content again room opens ends) (plain : introducesName (.keyword word) = false) :
    Ready (Grammar.optional word content) (fun k => Grammar.optional word (again k)) room
      (fun first => first = .keyword word ∨ ends first ∧ first ≠ .keyword word)
      fun terminal => ends terminal ∧ terminal ≠ .keyword word := by
  apply accepting
  · exact (ready.weaken (fun _ opening => opening) fun _ ending => ending.1).last some |>.prompt
  · exact .pure none room _
  · exact fun _ => Nat.le_succ _
  · exact plain
  · exact nofun
  · exact fun both => both.2 rfl

/-- A loop over items, with as many steps as there is room for. -/
theorem listFrom {item : Nat → Parser α} {again : κ → Nat → Parser α}
    (ready : ∀ position, Ready (item position) (fun k => again k position) room opens ends)
    (continues : ends (.symbol .comma)) (steps position : Nat) :
    Ready (Grammar.listFrom item steps position)
      (fun k : κ × Nat => Grammar.listFrom (again k.1) k.2 position)
      (fun k => min (room k.1) k.2) opens
      fun terminal => ends terminal ∧ terminal ≠ .symbol .comma := by
  have head (position : Nat) : Ready (item position) (fun k : κ × Nat => again k.1 position)
      (fun k => min (room k.1) k.2) opens ends :=
    ((ready position).reindex Prod.fst).fewer fun _ => Nat.min_le_left _ _
  have unrolls {k : κ × Nat} {position : Nat} (enough : 0 < min (room k.1) k.2) :
      Grammar.listFrom (again k.1) k.2 position = again k.1 position >>= fun first =>
        accept (.symbol .comma) >>= fun more => if more then
            Grammar.listFrom (again k.1) (k.2 - 1) (position + 1) >>= fun others =>
              Pure.pure (first :: others)
          else Pure.pure [first] := by
    obtain ⟨fewer, steps_eq⟩ := Nat.exists_eq_add_one.mpr (Nat.lt_min.mp enough).2
    rw [steps_eq]
    rfl
  have single (position : Nat) : Offers
      (fun k : κ × Nat => Grammar.listFrom (again k.1) k.2 position) (fun k => min (room k.1) k.2)
      opens fun terminal => ends terminal ∧ terminal ≠ .symbol .comma := by
    have alone (first : α) : Offers (fun k : κ × Nat => accept (.symbol .comma) >>= fun more =>
        if more then Grammar.listFrom (again k.1) (k.2 - 1) (position + 1) >>= fun others =>
          Pure.pure (first :: others)
        else Pure.pure [first]) (fun k => min (room k.1) k.2)
        (fun terminal => ends terminal ∧ terminal ≠ .symbol .comma)
        fun terminal => ends terminal ∧ terminal ≠ .symbol .comma :=
      .done [first] (fun _ _ _ ending => bind_of_ok (accept_of_ne ending.2) rfl)
        fun _ ending => ending
    apply ((head position).offers.bind alone (fun _ ending => ending.1)
      fun _ => ⟨Nat.le_refl _, Nat.le_refl _⟩).congr _ fun _ opening => opening
    exact fun k tokens enough _ => congrFun (unrolls enough) tokens
  induction steps generalizing position with
  | zero => exact ⟨fun tokens => .excused rfl, single position⟩
  | succ steps ih =>
      have others (first : α) (tokens : List Token) := (((ih (position + 1)).prompt tokens).reindex
        fun k : κ × Nat => (k.1, k.2 - 1)).last (first :: ·)
      have more (first : α) : Ready
          (accept (.symbol .comma) >>= fun more => if more then
              Grammar.listFrom item steps (position + 1) >>= fun others =>
                Pure.pure (first :: others)
            else Pure.pure [first])
          (fun k : κ × Nat => accept (.symbol .comma) >>= fun more => if more then
              Grammar.listFrom (again k.1) (k.2 - 1) (position + 1) >>= fun others =>
                Pure.pure (first :: others)
            else Pure.pure [first])
          (fun k => min (room k.1) k.2)
          (fun terminal => terminal = .symbol .comma ∨ ends terminal ∧ terminal ≠ .symbol .comma)
          fun terminal => ends terminal ∧ terminal ≠ .symbol .comma := by
        refine .accepting (others first) (.pure [first] _ _) ?_ rfl nofun fun both => both.2 rfl
        intro k
        dsimp only
        omega
      apply ((head position).bind more _).unrolled (.inl rfl)
      · exact fun k enough => unrolls enough
      · intro terminal following
        cases following with
        | inl comma => exact comma ▸ continues
        | inr ending => exact ending.1

/-- One or more items with commas between them. -/
theorem list {item : Parser α} {again : κ → Parser α} (ready : Ready item again room opens ends)
    (continues : ends (.symbol .comma)) :
    Ready (Grammar.list item) (fun k => Grammar.list (again k)) room opens
      fun terminal => ends terminal ∧ terminal ≠ .symbol .comma where
  prompt tokens := .sized (fun k steps => Grammar.listFrom (fun _ => again k) steps 0)
    ((listFrom (fun _ => ready) continues (tokens.length + 1) 0).prompt tokens) rfl
  offers := (listFrom (fun _ => ready) continues 0 0).offers.sized
    fun k steps => Grammar.listFrom (fun _ => again k) steps 0

end Ready

end Grammar

end Relational
