import Relational.Proofs.Grammar.Prompt.Basic

/-!
# Prompt parsers in sequence

Two parsers, one after the other, are prompt if both are, if the second one opens where
the first one may end, and if it offers something to complete what the first one was
refused at.
-/

namespace Relational

namespace Grammar

variable {κ κ' α β : Type} {parser : Parser α} {again : κ → Parser α} {room : κ → Nat}
  {tokens used before rest tail : List Token} {value : α} {token : Token}
  {ends opens leads follow : Terminal → Prop}

/-! ### Steps of parsers -/

section

variable {next : α → Parser β}

/-- What was read first is passed on. -/
theorem bind_of_ok {first : Parser α} {outcome : Except Refusal (β × List Token)}
    (read : first tokens = .ok (value, rest)) (continues : next value rest = outcome) :
    (first >>= next) tokens = outcome := by
  change Parser.bind first next tokens = outcome
  rw [Parser.bind, read]
  exact continues

theorem bind_of_error {first : Parser α} {refusal : Refusal}
    (refused : first tokens = .error refusal) : (first >>= next) tokens = .error refusal := by
  change Parser.bind first next tokens = _
  rw [Parser.bind, refused]

/-- Two sequences agree at tokens where their first parsers do. -/
theorem bind_congr_at {first first' : Parser α} (same : first tokens = first' tokens) :
    (first >>= next) tokens = (first' >>= next) tokens := by
  change Parser.bind first next tokens = Parser.bind first' next tokens
  rw [Parser.bind, same]
  rfl

/-- What two parsers read in turn was read by the first and then by the second. -/
theorem exists_of_bind {first : Parser α} {result : β}
    (read : (first >>= next) tokens = .ok (result, rest)) :
    ∃ value between, first tokens = .ok (value, between) ∧
      next value between = .ok (result, rest) := by
  cases found : first tokens with
  | error refusal =>
      rw [bind_of_error found] at read
      cases read
  | ok recognized =>
      rw [bind_of_ok found rfl] at read
      exact ⟨recognized.1, recognized.2, rfl, read⟩

end

/-! ### Offers -/

namespace Offers

/-- A parser offers what all its versions read. -/
theorem reading (extra : List Token) (value : α)
    (reads : ∀ k tail, extra.length < room k → ends (front tail) →
      again k (extra ++ tail) = .ok (value, tail))
    (leads : ∀ tail, ends (front tail) → opens (front (extra ++ tail))) :
    Offers again room opens ends :=
  ⟨extra, .ok value, innocent_ok value, fun k tail enough ending => reads k tail enough ending.ok,
    fun tail ending => leads tail ending.ok⟩

/-- A parser offers to read nothing more. -/
theorem done (value : α) (reads : ∀ k tail, 0 < room k → ends (front tail) →
      again k tail = .ok (value, tail)) (wide : ∀ terminal, ends terminal → opens terminal) :
    Offers again room opens ends :=
  .reading [] value reads fun _ ending => wide _ ending

/-- What is offered with some ends is offered with fewer, and with less room. -/
theorem weaken {room' : κ → Nat} (offers : Offers again room' leads follow)
    (fits : ∀ k, room k ≤ room' k) (wide : ∀ terminal, leads terminal → opens terminal)
    (narrow : ∀ terminal, ends terminal → follow terminal) : Offers again room opens ends := by
  obtain ⟨extra, outcome, innocent, reads, leading⟩ := offers
  refine ⟨extra, outcome, innocent, fun k tail enough ending => ?_,
    fun tail ending => wide _ (leading tail (ending.imp narrow))⟩
  exact reads k tail (Nat.lt_of_lt_of_le enough (fits k)) (ending.imp narrow)

/-- The versions may be named in another way. -/
theorem reindex (offers : Offers again room opens ends) (name : κ' → κ) :
    Offers (fun k => again (name k)) (fun k => room (name k)) opens ends := by
  obtain ⟨extra, outcome, innocent, reads, leads⟩ := offers
  exact ⟨extra, outcome, innocent, fun k => reads (name k), leads⟩

/-- A bound on the steps of a loop may be counted from the tokens. -/
theorem sized (again : κ → Nat → Parser α)
    (offers : Offers (fun k : κ × Nat => again k.1 k.2) (fun k => min (room k.1) k.2) opens ends) :
    Offers (fun k tokens => again k (tokens.length + 1) tokens) room opens ends := by
  obtain ⟨extra, outcome, innocent, reads, leads⟩ := offers
  refine ⟨extra, outcome, innocent, ?_, leads⟩
  intro k tail enough ending
  apply reads (k, (extra ++ tail).length + 1) tail _ ending
  dsimp only
  rw [List.length_append]
  omega

/-- Parsers that read alike offer alike. -/
theorem congr {again' : κ → Parser α} (offers : Offers again' room leads ends)
    (alike : ∀ k tokens, 0 < room k → leads (front tokens) → again k tokens = again' k tokens)
    (wide : ∀ terminal, leads terminal → opens terminal) : Offers again room opens ends := by
  obtain ⟨extra, outcome, innocent, reads, leading⟩ := offers
  refine ⟨extra, outcome, innocent, ?_, fun tail ending => wide _ (leading tail ending)⟩
  intro k tail enough ending
  rw [alike k _ (Nat.zero_lt_of_lt enough) (leading tail ending)]
  exact reads k tail enough ending

/-- A token in front of an offer makes another one. -/
theorem shift {again' : κ → Parser α} {room' : κ → Nat} (token : Token)
    (offers : Offers again' room' leads ends)
    (alike : ∀ k tokens, 0 < room k → leads (front tokens) →
      again k (token :: tokens) = again' k tokens)
    (fits : ∀ k, room k ≤ room' k + 1) (leading : opens token.terminal) :
    Offers again room opens ends := by
  obtain ⟨extra, outcome, innocent, reads, leads'⟩ := offers
  refine ⟨token :: extra, outcome, innocent, ?_, fun _ _ => leading⟩
  intro k tail enough ending
  have bound := fits k
  rw [List.length_cons] at enough
  rw [List.cons_append, alike k _ (Nat.zero_lt_of_lt enough) (leads' tail ending)]
  exact reads k tail (by omega) ending

/-- Two offers in turn make one, if what follows meets the ends of the first. -/
theorem bind {next : κ → α → Parser β} {room₁ room₂ : κ → Nat}
    (offers : Offers again room₁ opens leads)
    (continues : ∀ value, Offers (fun k => next k value) room₂ follow ends)
    (meets : ∀ terminal, follow terminal → leads terminal)
    (fits : ∀ k, room k ≤ room₁ k ∧ room k ≤ room₂ k) :
    Offers (fun k => again k >>= next k) room opens ends := by
  obtain ⟨extra, outcome, innocent, reads, leading⟩ := offers
  cases outcome with
  | error error =>
      refine ⟨extra, .error error, fun fault same => innocent fault ?_, ?_, ?_⟩
      · exact congrArg Except.error (Except.error.inj same)
      · intro k tail enough _
        exact bind_of_error (reads k tail (Nat.lt_of_lt_of_le enough (fits k).1)
          (behind_error leads error tail))
      · exact fun tail _ => leading tail (behind_error leads error tail)
  | ok value =>
      obtain ⟨more, result, innocent', reads', leading'⟩ := continues value
      have joined : ∀ tail, extra ++ more ++ tail = extra ++ (more ++ tail) :=
        fun tail => List.append_assoc extra more tail
      refine ⟨extra ++ more, result, innocent', ?_, ?_⟩
      · intro k tail enough ending
        have bounds := fits k
        rw [List.length_append] at enough
        rw [joined]
        exact bind_of_ok (reads k _ (by omega) fun _ => meets _ (leading' tail ending))
          (reads' k tail (by omega) ending)
      · intro tail ending
        rw [joined]
        exact leading _ fun _ => meets _ (leading' tail ending)

end Offers

/-! ### One parser after another -/

section

variable {next : α → Parser β} {again' : κ → α → Parser β} {room₁ room₂ : κ → Nat} {least : Nat}

/-- A beginning that is doomed is so whatever parser follows. -/
theorem Doomed.followed {next : κ → α → Parser β} (doomed : Doomed again room₁ opens tokens before)
    (fits : ∀ k, room k ≤ room₁ k) :
    Doomed (fun k => again k >>= next k) room opens tokens before where
  fails k tail enough := by
    obtain ⟨wanted, rest, refused⟩ := doomed.fails k tail (Nat.lt_of_lt_of_le enough (fits k))
    exact ⟨wanted, rest, bind_of_error refused⟩
  stands := doomed.stands

/-- A beginning that the first parser is refused at is completed by what the second
one offers. -/
theorem Prospect.followed (prospect : Prospect again room₁ opens leads tokens before)
    (offers : ∀ value, Possible again room₁ leads value →
      Offers (fun k => again' k value) room₂ follow ends)
    (meets : ∀ terminal, follow terminal → leads terminal)
    (consumes : Consumes least opens leads tokens)
    (fits : ∀ k, room k ≤ room₁ k ∧ room k ≤ room₂ k + least) :
    Prospect (fun k => again k >>= again' k) room opens ends tokens before := by
  cases prospect with
  | completes extra outcome innocent reads stands =>
      cases outcome with
      | error error =>
          refine .completes extra (.error error) (fun fault same => innocent fault ?_) ?_ ?_
          · exact congrArg Except.error (Except.error.inj same)
          · intro k tail enough _
            exact bind_of_error (reads k tail (Nat.lt_of_lt_of_le enough (fits k).1)
              (behind_error leads error tail))
          · exact fun tail _ => stands tail (behind_error leads error tail)
      | ok value =>
          have read : ∀ k tail, (before ++ extra).length < room₁ k → leads (front tail) →
              again k (before ++ extra ++ tail) = .ok (value, tail) :=
            fun k tail enough ending => reads k tail enough fun _ => ending
          obtain ⟨more, result, innocent', reads', leads'⟩ := offers value ⟨_, read⟩
          have joined : ∀ tail,
              before ++ (extra ++ more) ++ tail = before ++ extra ++ (more ++ tail) :=
            fun tail => by simp only [List.append_assoc]
          have ending' : ∀ tail, Behind ends result tail → leads (front (more ++ tail)) :=
            fun tail ending => meets _ (leads' tail ending)
          refine .completes (extra ++ more) result innocent' ?_ ?_
          · intro k tail enough ending
            have bounds := fits k
            have consumed :=
              consumes (before ++ extra) fun tail ending => stands tail fun _ => ending
            rw [← List.append_assoc, List.length_append] at enough
            rw [joined]
            exact bind_of_ok (read k _ (by omega) (ending' tail ending))
              (reads' k tail (by omega) ending)
          · intro tail ending
            rw [joined]
            exact stands _ fun _ => ending' tail ending
  | limited doomed opening short opened fails stands =>
      refine .limited (doomed.followed fun k => (fits k).1) opening short opened ?_ stands
      exact fun k tail enough still =>
        bind_of_error (fails k tail (Nat.lt_of_lt_of_le enough (fits k).1) still)
  | stuck doomed dead => exact .stuck (doomed.followed fun k => (fits k).1) dead

/-- A beginning that the second parser is refused at is completed behind what the
first one has read. -/
theorem Prospect.preceded
    (prospect : Prospect (fun k => again' k value) room₂ follow ends rest before)
    (settled : Settled used)
    (reads : ∀ k tail, used.length < room₁ k → Stands leads rest tail →
      again k (used ++ tail) = .ok (value, tail))
    (stands : ∀ tail, Stands leads rest tail → Stands opens (used ++ rest) (used ++ tail))
    (meets : ∀ terminal, follow terminal → leads terminal)
    (consumes : Consumes least opens leads (used ++ rest))
    (fits : ∀ k, room k ≤ room₁ k ∧ room k ≤ room₂ k + least) :
    Prospect (fun k => again k >>= again' k) room opens ends (used ++ rest) (used ++ before) := by
  have consumed := consumes used fun tail ending => stands tail (.inl ending)
  have resumed : ∀ {k part tail} {outcome : Except Refusal (β × List Token)},
      (used ++ part).length < room k → Stands follow rest (part ++ tail) →
      (part.length < room₂ k → again' k value (part ++ tail) = outcome) →
      (again k >>= again' k) (used ++ part ++ tail) = outcome := by
    intro k part tail outcome enough standing continues
    have bounds := fits k
    rw [List.length_append] at enough
    rw [List.append_assoc]
    exact bind_of_ok (reads k _ (by omega) (standing.imp meets)) (continues (by omega))
  have stands' : ∀ {part tail}, Stands follow rest (part ++ tail) →
      Stands opens (used ++ rest) (used ++ part ++ tail) := by
    intro part tail standing
    rw [List.append_assoc]
    exact stands _ (standing.imp meets)
  have doomed' : Doomed (fun k => again' k value) room₂ follow rest before →
      Doomed (fun k => again k >>= again' k) room opens (used ++ rest) (used ++ before) := by
    refine fun doomed => ⟨fun k tail enough => ?_, fun tail => stands' (doomed.stands tail)⟩
    have bounds := fits k
    have shorter : before.length < room₂ k := by
      rw [List.length_append] at enough
      omega
    obtain ⟨wanted, rest', refused⟩ := doomed.fails k tail shorter
    exact ⟨wanted, rest', resumed enough (doomed.stands tail) fun _ => refused⟩
  cases prospect with
  | completes extra outcome innocent reads' standing =>
      refine .completes extra outcome innocent ?_ ?_
      · intro k tail enough ending
        rw [List.append_assoc used] at enough ⊢
        exact resumed enough (standing tail ending) fun enough => reads' k tail enough ending
      · intro tail ending
        rw [List.append_assoc used]
        exact stands' (standing tail ending)
  | limited doomed opening short opened fails standing =>
      refine .limited (doomed' doomed) opening short ?_ ?_ ?_
      · rw [List.append_assoc]
        exact opened_behind opened
      · intro k tail enough still
        rw [List.append_assoc used] at enough ⊢
        exact resumed enough (standing tail) fun enough => fails k tail enough still
      · intro tail
        rw [List.append_assoc used]
        exact stands' (standing tail)
  | stuck doomed dead => exact .stuck (doomed' doomed) (dead.behind settled)

/-- Two prompt parsers, one after the other.  The second one opens where the first
one may end, and offers something to complete what the first one was refused at.  It
needs room only for what the first one does not consume. -/
theorem PromptAt.bind_consuming (prompt : PromptAt parser again room₁ opens leads tokens)
    (continues : ∀ value rest, parser tokens = .ok (value, rest) →
      PromptAt (next value) (fun k => again' k value) room₂ follow ends rest)
    (offers : ∀ value, Possible again room₁ leads value →
      Offers (fun k => again' k value) room₂ follow ends)
    (meets : ∀ terminal, follow terminal → leads terminal)
    (consumes : Consumes least opens leads tokens)
    (fits : ∀ k, room k ≤ room₁ k ∧ room k ≤ room₂ k + least) :
    PromptAt (parser >>= next) (fun k => again k >>= again' k) room opens ends tokens := by
  cases first : parser tokens with
  | error refusal =>
      constructor
      · intro value rest read
        rw [bind_of_error first] at read
        cases read
      · intro wanted rest refused other
        rw [bind_of_error first] at refused
        cases refused
        obtain ⟨before, split, prospect⟩ := prompt.refuses first other
        exact ⟨before, split, prospect.followed offers meets consumes fits⟩
  | ok recognized =>
      obtain ⟨middle, behind⟩ := recognized
      obtain ⟨used, rfl, settled, reads, stands⟩ := prompt.resumes first
      have consumed := consumes used fun tail ending => stands tail (.inl ending)
      constructor
      · intro value rest read
        rw [bind_of_ok first rfl] at read
        obtain ⟨more, rfl, settled', reads', stands'⟩ := (continues middle _ first).resumes read
        refine ⟨used ++ more, (List.append_assoc _ _ _).symm, settled.append settled', ?_, ?_⟩
        · intro k tail enough ending
          have bounds := fits k
          rw [List.length_append] at enough
          rw [List.append_assoc]
          exact bind_of_ok (reads k _ (by omega) ((stands' tail ending).imp meets))
            (reads' k tail (by omega) ending)
        · intro tail ending
          rw [List.append_assoc]
          exact stands _ ((stands' tail ending).imp meets)
      · intro wanted rest refused other
        rw [bind_of_ok first rfl] at refused
        obtain ⟨before, rfl, prospect⟩ := (continues middle _ first).refuses refused other
        exact ⟨used ++ before, (List.append_assoc _ _ _).symm,
          prospect.preceded settled reads stands meets consumes fits⟩

/-- Two parsers are prompt in turn if the second is, and offers something. -/
theorem PromptAt.bind (prompt : PromptAt parser again room₁ opens leads tokens)
    (continues : ∀ value rest, parser tokens = .ok (value, rest) →
      PromptAt (next value) (fun k => again' k value) room₂ follow ends rest)
    (offers : ∀ value, Offers (fun k => again' k value) room₂ follow ends)
    (meets : ∀ terminal, follow terminal → leads terminal)
    (fits : ∀ k, room k ≤ room₁ k ∧ room k ≤ room₂ k) :
    PromptAt (parser >>= next) (fun k => again k >>= again' k) room opens ends tokens :=
  prompt.bind_consuming continues (fun value _ => offers value) meets (fun _ _ => Nat.zero_le _)
    fits

/-- The last step turns what was read into a result. -/
theorem PromptAt.last (change : α → β) (prompt : PromptAt parser again room opens ends tokens) :
    PromptAt (parser >>= fun value => Pure.pure (change value))
      (fun k => again k >>= fun value => Pure.pure (change value)) room opens ends tokens :=
  prompt.bind (fun _ _ _ => .done rfl (fun _ _ _ _ => rfl) fun _ ending => ending)
    (fun value => .done (change value) (fun _ _ _ _ => rfl) fun _ ending => ending)
    (fun _ ending => ending) fun _ => ⟨Nat.le_refl _, Nat.le_refl _⟩

end

end Grammar

end Relational
