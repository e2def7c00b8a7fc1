import Mathlib.Algebra.Group.Nat.Defs
import Mathlib.Data.List.Basic
import Relational.Grammar.Parser

/-!
# Parsers that read a spelling

A parser reads a list of terminals as a value if it recognizes the value wherever
tokens with these terminals stand, and leaves the tokens behind them.  What stands
behind may matter, since a parser looks ahead to find out where it has to stop.
The lemmas follow the steps of a parser: each consumes the front of the spelling
and leaves a parser for the remainder.
-/

namespace Relational

namespace Grammar

/-- The first of some terminals; after the last one the input has ended. -/
def ahead : List Terminal → Terminal
  | [] => .endOfInput
  | terminal :: _ => terminal

theorem front_eq (tokens : List Token) : front tokens = ahead (tokens.map Token.terminal) := by
  cases tokens <;> rfl

theorem front_tail_eq (tokens : List Token) :
    front tokens.tail = ahead (tokens.map Token.terminal).tail := by
  rw [front_eq, List.map_tail]

/-- Lists of terminals with commas between them. -/
def separated : List (List Terminal) → List Terminal
  | [] => []
  | [item] => item
  | item :: next :: rest => item ++ .symbol .comma :: separated (next :: rest)

/-- A separated list has a terminal for each item but one. -/
theorem length_le_separated (items : List (List Terminal)) :
    items.length ≤ (separated items).length + 1 := by
  fun_induction separated items with
  | case1 => simp
  | case2 => simp
  | case3 item next rest ih =>
      simp only [List.length_cons, List.length_append] at ih ⊢
      omega

/-- An item is no longer than the separated list that it is in. -/
theorem length_le_of_mem_separated {items : List (List Terminal)} {item : List Terminal}
    (member : item ∈ items) : item.length ≤ (separated items).length := by
  fun_induction separated items with
  | case1 => cases member
  | case2 single =>
      cases List.mem_singleton.mp member
      exact Nat.le_refl _
  | case3 first next rest ih =>
      rw [List.length_append, List.length_cons]
      rcases List.mem_cons.mp member with rfl | later
      · exact Nat.le_add_right _ _
      · have shorter := ih later
        omega

namespace Parser

variable {α β : Type}

/-- Wherever tokens spell some terminals in front of others, a parser recognizes
a value and leaves the others. -/
def Reads (parser : Parser α) (spelling : List Terminal) (value : α) (after : List Terminal) :
    Prop :=
  ∀ tokens rest : List Token, tokens.map Token.terminal = spelling →
    rest.map Token.terminal = after → parser (tokens ++ rest) = .ok (value, rest)

variable {first parser : Parser α} {next : α → Parser β} {spelling others after : List Terminal}
  {value : α} {result : β} {terminal : Terminal}

namespace Reads

/-- Returning a value reads nothing. -/
theorem pure (value : α) (after : List Terminal) :
    (Pure.pure value : Parser α).Reads [] value after := by
  intro tokens rest spelled _
  rw [List.map_eq_nil_iff.mp spelled]
  rfl

/-- Two parsers read in turn what each reads. -/
theorem bind (reads : first.Reads spelling value (others ++ after))
    (continues : (next value).Reads others result after) :
    (first >>= next).Reads (spelling ++ others) result after := by
  intro tokens rest spelled follow
  obtain ⟨front, following, rfl, spelled, spelled'⟩ := List.map_eq_append_iff.mp spelled
  have recognized := reads front (following ++ rest) spelled
    (by rw [List.map_append, spelled', follow])
  rw [List.append_assoc]
  change Parser.bind first next _ = _
  rw [Parser.bind, recognized]
  exact continues following rest spelled' follow

/-- The last step of a parser turns what was read into its result. -/
theorem last {change : α → β} (reads : first.Reads spelling value after) :
    (first >>= fun read => Pure.pure (change read)).Reads spelling (change value) after := by
  rw [← List.append_nil spelling]
  exact reads.bind (Reads.pure (change value) after)

/-- A parser may count the tokens in front of it. -/
theorem counted (parser : Nat → Parser α)
    (reads : (parser (spelling.length + after.length)).Reads spelling value after) :
    Parser.Reads (fun tokens => parser tokens.length tokens) spelling value after := by
  intro tokens rest spelled follow
  have recognized := reads tokens rest spelled follow
  rw [← spelled, ← follow, List.length_map, List.length_map, ← List.length_append] at recognized
  exact recognized

/-- Looking ahead consumes nothing. -/
theorem look {next : Terminal × Terminal → Parser β}
    (continues : (next (ahead (spelling ++ after), ahead (spelling ++ after).tail)).Reads spelling
      result after) : (Grammar.look >>= next).Reads spelling result after := by
  intro tokens rest spelled follow
  have recognized := continues tokens rest spelled follow
  rw [← spelled, ← follow, ← List.map_append, ← front_eq, ← front_tail_eq] at recognized
  exact recognized

/-- Taking a token reads its terminal. -/
theorem advance {next : String → Parser β}
    (continues : ∀ lexeme, (next lexeme).Reads spelling result after) :
    (Grammar.advance >>= next).Reads (terminal :: spelling) result after := by
  intro tokens rest spelled follow
  obtain ⟨token, tokens, rfl, -, spelled⟩ := List.map_eq_cons_iff.mp spelled
  exact continues token.lexeme tokens rest spelled follow

/-- Expecting a terminal reads it. -/
theorem expect {next : Unit → Parser β} (continues : (next ()).Reads spelling result after) :
    (Grammar.expect terminal >>= next).Reads (terminal :: spelling) result after := by
  intro tokens rest spelled follow
  obtain ⟨token, tokens, rfl, here, spelled⟩ := List.map_eq_cons_iff.mp spelled
  have found : Grammar.expect terminal (token :: tokens ++ rest) = .ok ((), tokens ++ rest) :=
    if_pos here
  change Parser.bind (Grammar.expect terminal) next _ = _
  rw [Parser.bind, found]
  exact continues tokens rest spelled follow

/-- Accepting a terminal reads it where it stands. -/
theorem accepted {next : Bool → Parser β} (continues : (next true).Reads spelling result after) :
    (accept terminal >>= next).Reads (terminal :: spelling) result after := by
  intro tokens rest spelled follow
  obtain ⟨token, tokens, rfl, here, spelled⟩ := List.map_eq_cons_iff.mp spelled
  have found : accept terminal (token :: tokens ++ rest) = .ok (true, tokens ++ rest) :=
    if_pos here
  change Parser.bind (accept terminal) next _ = _
  rw [Parser.bind, found]
  exact continues tokens rest spelled follow

/-- Accepting a terminal reads nothing where another one stands. -/
theorem absent {next : Bool → Parser β} (different : ahead (spelling ++ after) ≠ terminal)
    (continues : (next false).Reads spelling result after) :
    (accept terminal >>= next).Reads spelling result after := by
  intro tokens rest spelled follow
  have found : accept terminal (tokens ++ rest) = .ok (false, tokens ++ rest) := by
    rw [← spelled, ← follow, ← List.map_append] at different
    generalize tokens ++ rest = all at different ⊢
    cases all with
    | nil => rfl
    | cons token others => exact if_neg different
  change Parser.bind (accept terminal) next _ = _
  rw [Parser.bind, found]
  exact continues tokens rest spelled follow

/-- An optional mark that is written exactly if a choice asks for it. -/
theorem marked {next : Bool → Parser β} {choice : Bool} (marks : List Terminal)
    (written : marks = if choice then [terminal] else [])
    (different : ahead (spelling ++ after) ≠ terminal)
    (continues : (next choice).Reads spelling result after) :
    (accept terminal >>= next).Reads (marks ++ spelling) result after := by
  cases choice with
  | true =>
      rw [written]
      exact .accepted continues
  | false =>
      rw [written]
      exact .absent different continues

end Reads

end Parser

/-! ### Names, numbers and lists -/

open Grammar.Parser

variable {α β : Type} {after : List Terminal}

theorem name_reads (s : String) (after : List Terminal) : name.Reads [.name s] s after := by
  apply Reads.look
  exact .advance fun _ => .pure s after

/-- A parser behind a name reads the name first. -/
theorem Parser.Reads.named {next : String → Parser β} {s : String} {spelling : List Terminal}
    {result : β}
    (continues : (next s).Reads spelling result after) :
    (name >>= next).Reads (.name s :: spelling) result after :=
  .bind (name_reads s _) continues

/-- A natural number within 64 bits is read. -/
theorem natural_reads {n : Nat} (fits : n < 2 ^ 63) (after : List Terminal) :
    natural.Reads [.integer (Int64.ofNat n)] n after := by
  have exact : (Int64.ofNat n).toInt = n := Int64.toInt_ofNat_of_lt fits
  apply Reads.look
  change (if 0 ≤ Int64.ofNat n then _ else _ : Parser Nat).Reads _ _ _
  rw [if_pos (Int64.le_iff_toInt_le.mpr (by rw [exact]; exact Int.natCast_nonneg n))]
  refine .advance fun _ => ?_
  rw [exact]
  exact .pure n after

/-- A list is read if each item is, in front of a comma and in front of what
follows the list. -/
theorem listFrom_reads {item : Nat → Parser α} {write : α → List Terminal}
    (ends : ahead after ≠ .symbol .comma) {steps position : Nat} {values : List α}
    (some_value : values ≠ []) (enough : values.length ≤ steps)
    (each : ∀ place value, values[place]? = some value → ∀ following,
      ahead following = .symbol .comma ∨ following = after →
        (item (position + place)).Reads (write value) value following) :
    (listFrom item steps position).Reads (separated (values.map write)) values after := by
  induction values generalizing steps position with
  | nil => exact absurd rfl some_value
  | cons value rest ih =>
      obtain ⟨steps, rfl⟩ : ∃ fewer, steps = fewer + 1 :=
        Nat.exists_eq_add_one.mpr (Nat.lt_of_lt_of_le (Nat.succ_pos _) enough)
      have head := each 0 value rfl
      cases rest with
      | nil =>
          change (listFrom item (steps + 1) position).Reads (write value) [value] after
          rw [← List.append_nil (write value)]
          refine Reads.bind (head after (Or.inr rfl)) ?_
          apply Reads.absent
          · exact ends
          · exact Reads.pure [value] after
      | cons next others =>
          refine Reads.bind (head _ (Or.inl rfl)) (Reads.accepted ?_)
          refine Reads.last (ih (List.cons_ne_nil _ _) (Nat.le_of_succ_le_succ enough) ?_)
          intro place value found following ends'
          have later := each (place + 1) value found following ends'
          rwa [Nat.add_assoc, Nat.add_comm 1 place]

/-- A list is read if each item is, by its place. -/
theorem places_reads {item : Nat → Parser α} {write : α → List Terminal}
    (ends : ahead after ≠ .symbol .comma) {values : List α} (some_value : values ≠ [])
    (each : ∀ place value, values[place]? = some value → ∀ following,
      ahead following = .symbol .comma ∨ following = after →
        (item place).Reads (write value) value following) :
    Parser.Reads (fun tokens => listFrom item (tokens.length + 1) 0 tokens)
      (separated (values.map write)) values after := by
  intro tokens rest spelled follow
  have enough : values.length ≤ (tokens ++ rest).length + 1 := by
    have counted := length_le_separated (values.map write)
    rw [List.length_map, ← spelled, List.length_map] at counted
    rw [List.length_append]
    omega
  refine listFrom_reads ends some_value enough ?_ tokens rest spelled follow
  intro place value found
  rw [Nat.zero_add]
  exact each place value found

/-- A list is read if each item is. -/
theorem list_reads {item : Parser α} {write : α → List Terminal}
    (ends : ahead after ≠ .symbol .comma) {values : List α} (some_value : values ≠ [])
    (each : ∀ value ∈ values, ∀ following,
      ahead following = .symbol .comma ∨ following = after →
        item.Reads (write value) value following) :
    (list item).Reads (separated (values.map write)) values after :=
  places_reads ends some_value fun _ value found => each value (List.mem_of_getElem? found)

end Grammar

end Relational
