import Relational.Proofs.Grammar.Prompt.Expression
import Relational.Proofs.Grammar.Statement

/-!
# Prompt reading of queries and changes

The parsers of statements are read as they are, without other versions, since only
expressions count their steps.  What may follow a clause is the keyword of a later one
or the end of the statement.
-/

namespace Relational

namespace Grammar

variable {α β : Type} {parser : Parser α} {opens ends leads follow : Terminal → Prop}

/-- A parser that is ready without other versions. -/
abbrev Steady (parser : Parser α) (opens ends : Terminal → Prop) : Prop :=
  Ready parser (fun _ : Nat => parser) (fun k => k) opens ends

theorem Steady.pure (value : α) (ends : Terminal → Prop) : Steady (Pure.pure value) ends ends :=
  Ready.pure value _ ends

/-- Two parsers are steady in turn if what follows meets the ends of the first. -/
theorem Steady.bind {next : α → Parser β} (steady : Steady parser opens leads)
    (continues : ∀ value, Steady (next value) follow ends)
    (meets : ∀ terminal, follow terminal → leads terminal) : Steady (parser >>= next) opens ends :=
  Ready.bind steady continues meets

theorem Steady.expecting {terminal : Terminal} {next : Unit → Parser α}
    (continues : Steady (next ()) leads ends) (plain : introducesName terminal = false) :
    Steady (expect terminal >>= next) (· = terminal) ends :=
  Ready.expecting continues plain

/-- A parser that goes by the first terminal. -/
theorem Steady.chosen {forms : Terminal → Option (Parser α)} {wanted : Wanted}
    (chooses : ∀ tokens, parser tokens =
      ((forms (front tokens)).getD (Parser.refuse wanted)) tokens)
    (steady : ∀ terminal form, forms terminal = some form → Steady form (· = terminal) ends)
    {terminal : Terminal} {form : Parser α} (known : forms terminal = some form) :
    Steady parser (fun first => (forms first).isSome) ends := by
  have choice : ∀ {tokens form}, forms (front tokens) = some form →
      parser tokens = form tokens := by
    intro tokens form known
    rw [chooses, known]
    rfl
  have offers : Offers (fun _ : Nat => parser) (fun k => k) (fun first => (forms first).isSome)
      ends := by
    apply (steady terminal form known).offers.congr
    · rintro _ tokens _ rfl
      exact choice known
    · rintro _ rfl
      exact Option.isSome_of_mem known
  refine ⟨fun tokens => ?_, offers⟩
  cases found : forms (front tokens) with
  | none =>
      apply PromptAt.refused _ offers
      · exact wanted
      · rw [chooses, found]
        rfl
  | some form =>
      apply ((steady _ form found).prompt tokens).congr (choice found)
      · intro _ tokens' _ stands
        have same : front tokens' = front tokens := stands.elim id And.left
        exact choice (same ▸ found)
      · rintro _ rfl
        exact Option.isSome_of_mem found

/-! ### Clauses -/

/-- What may follow where only clauses with some keywords are still to come. -/
inductive Follows (words : List Keyword) : Terminal → Prop
  | semicolon : Follows words (.symbol .semicolon)
  | endOfInput : Follows words .endOfInput
  | keyword {word : Keyword} (member : word ∈ words) : Follows words (.keyword word)

namespace Follows

variable {words : List Keyword} {word : Keyword} {terminal : Terminal}

/-- What may follow with some clauses to come may follow with more. -/
theorem mono {others : List Keyword} (follows : Follows words terminal) (among : words ⊆ others) :
    Follows others terminal := by
  cases follows with
  | semicolon => exact .semicolon
  | endOfInput => exact .endOfInput
  | keyword member => exact .keyword (among member)

theorem apart (follows : Follows words terminal) : terminal ≠ .symbol .leftParen := by
  cases follows <;> nofun

theorem no_comma (follows : Follows words terminal) : terminal ≠ .symbol .comma := by
  cases follows <;> nofun

/-- The word of a clause that is past does not follow. -/
theorem ne_keyword (follows : Follows words terminal) (past : word ∉ words) :
    terminal ≠ .keyword word := by
  rintro rfl
  cases follows with
  | keyword member => exact past member

/-- What may follow ends an expression. -/
theorem closes (follows : Follows words terminal) (among : words ⊆ clauseKeywords) :
    Ends 1 terminal := by
  have apart := follows.apart
  cases follows with
  | semicolon => exact ends_of_none (fun _ => rfl) rfl apart
  | endOfInput => exact ends_of_none (fun _ => rfl) rfl apart
  | keyword member =>
      have listed := among member
      simp only [clauseKeywords, List.mem_cons, List.not_mem_nil, or_false] at listed
      rcases listed with rfl | rfl | rfl | rfl | rfl | rfl <;>
        exact ends_of_none (fun _ => rfl) rfl apart

end Follows

/-- An optional clause, in front of later ones. -/
theorem optional_steady {content : Parser α} {words : List Keyword} {word : Keyword}
    (steady : Steady content leads (Follows words)) (fresh : word ∉ words)
    (plain : introducesName (.keyword word) = false) :
    Steady (optional word content) (Follows (word :: words)) (Follows words) := by
  apply (Ready.optional steady plain).weaken
  · intro terminal opening
    rcases opening with rfl | ⟨follows, -⟩
    · exact .keyword List.mem_cons_self
    · exact follows.mono fun _ => List.mem_cons_of_mem word
  · exact fun terminal follows => ⟨follows, follows.ne_keyword fresh⟩

theorem name_steady : Steady name StartsName (· ≠ .symbol .leftParen) :=
  Ready.name _

theorem expression_steady : Steady expression StartsOperand (Ends 1) :=
  expression_ready _

/-- Conditions are steady. -/
theorem condition_steady {words : List Keyword} {word : Keyword} (fresh : word ∉ words)
    (plain : introducesName (.keyword word) = false) (among : words ⊆ clauseKeywords) :
    Steady (condition word) (Follows (word :: words)) (Follows words) := by
  apply optional_steady _ fresh plain
  · exact StartsOperand
  · exact expression_steady.weaken (fun _ opening => opening) fun _ follows => follows.closes among

theorem nameList_steady :
    Steady (list name) StartsName fun terminal =>
      terminal ≠ .symbol .leftParen ∧ terminal ≠ .symbol .comma :=
  Ready.list name_steady nofun

theorem expressionList_steady :
    Steady (list expression) StartsOperand fun terminal =>
      Ends 1 terminal ∧ terminal ≠ .symbol .comma :=
  Ready.list expression_steady ends_comma

/-! ### Queries -/

/-- A terminal that ends an item of a select list. -/
structure EndsItem (terminal : Terminal) : Prop where
  ends : Ends 1 terminal
  unlabelled : terminal ≠ .keyword .as
  unnamed : ∀ s, terminal ≠ .name s

/-- The label of a select item without `AS`. -/
def bareLabel : Parser (Option String) := do
  match ← look with
  | (.name s, _) => do
    let _ ← advance
    return some s
  | _ => return none

/-- Where no name stands, there is no label. -/
theorem bareLabel_none {tokens : List Token} (unnamed : ∀ s, front tokens ≠ .name s) :
    bareLabel tokens = .ok (none, tokens) := by
  cases tokens with
  | nil => rfl
  | cons token tokens =>
      obtain ⟨terminal, lexeme, place⟩ := token
      cases terminal with
      | name s => exact absurd rfl (unnamed s)
      | _ => rfl

/-- Labels without `AS` are steady. -/
theorem bareLabel_steady : Steady bareLabel EndsItem EndsItem where
  prompt tokens := by
    by_cases unnamed : ∀ s, front tokens ≠ .name s
    · apply PromptAt.done (bareLabel_none unnamed) _ fun _ ending => ending
      intro _ tail _ stands
      apply bareLabel_none
      rcases stands with ending | ⟨same, -⟩
      · exact ending.unnamed
      · rwa [same]
    · push Not at unnamed
      obtain ⟨s, named⟩ := unnamed
      cases tokens with
      | nil => cases named
      | cons token tokens =>
          obtain ⟨terminal, lexeme, place⟩ := token
          cases named
          exact ((Steady.pure (some s) EndsItem).prompt tokens).shift rfl (fun _ _ _ _ => rfl)
            (fun _ => Nat.le_succ _) rfl (.inr nofun)
  offers := .done none (fun _ _ _ ending => bareLabel_none ending.unnamed) fun _ ending => ending

/-- Labels are steady. -/
theorem label_steady :
    Steady label (fun first => first = .keyword .as ∨ EndsItem first) EndsItem := by
  have chosen := (name_steady.last some).weaken (fun _ opening => opening)
    fun terminal (ending : EndsItem terminal) => ending.ends.apart
  apply Ready.accepting
  · exact chosen.prompt
  · exact bareLabel_steady
  · exact fun _ => Nat.le_succ _
  · rfl
  · exact nofun
  · exact fun ending => ending.unlabelled rfl

/-- Items of a select list are steady. -/
theorem selectItem_steady :
    Steady selectItem (fun first => first = .symbol .star ∨ StartsOperand first) EndsItem := by
  have labelled : Steady (expression >>= fun value => label >>= fun chosen =>
      Pure.pure (SelectItem.expression value chosen)) StartsOperand EndsItem := by
    apply expression_steady.bind
    · exact fun value => label_steady.last (SelectItem.expression value)
    · rintro terminal (rfl | ending)
      · exact ends_of_none (fun _ => rfl) rfl nofun
      · exact ending.ends
  apply Ready.accepting
  · exact (Steady.pure SelectItem.all EndsItem).prompt
  · exact labelled
  · exact fun _ => Nat.le_succ _
  · rfl
  · exact nofun
  · rintro (none | none) <;> cases none

/-- A terminal that ends a sort criterion. -/
structure EndsSort (terminal : Terminal) : Prop where
  apart : terminal ≠ .symbol .leftParen
  no_desc : terminal ≠ .keyword .desc
  no_asc : terminal ≠ .keyword .asc

/-- Sort criteria are steady. -/
theorem sortItem_steady : Steady sortItem StartsName EndsSort := by
  have ascending (column : String) : Steady
      (accept (.keyword .asc) >>= fun _ => Pure.pure (⟨column, true⟩ : SortItem))
      (fun first => first = .keyword .asc ∨ EndsSort first) EndsSort := by
    apply Ready.accepting
    · exact (Steady.pure (⟨column, true⟩ : SortItem) EndsSort).prompt
    · exact Steady.pure _ EndsSort
    · exact fun _ => Nat.le_succ _
    · rfl
    · exact nofun
    · exact fun ending => ending.no_asc rfl
  apply name_steady.bind
  · intro column
    apply Ready.accepting
    · exact (Steady.pure (⟨column, false⟩ : SortItem) EndsSort).prompt
    · exact ascending column
    · exact fun _ => Nat.le_succ _
    · rfl
    · exact nofun
    · rintro (none | ending)
      · cases none
      · exact ending.no_desc rfl
  · rintro terminal (rfl | rfl | ending)
    · nofun
    · nofun
    · exact ending.apart

/-- The clauses of a query from its condition on. -/
def clauses (items : List SelectItem) (table : String) : Parser Select := do
  let filter ← condition .«where»
  let groupBy ← optional .group do
    expectKeyword .«by»
    list name
  let having ← condition .having
  let orderBy ← optional .order do
    expectKeyword .«by»
    list sortItem
  let limit ← optional .limit natural
  let offset ← optional .offset natural
  return ⟨items, table, filter, groupBy, having, orderBy, limit, offset⟩

/-- Groupings are steady. -/
theorem grouping_steady :
    Steady (expectKeyword .«by» >>= fun _ => list name) (· = .keyword .«by»)
      (Follows [.having, .order, .limit, .offset]) := by
  apply Steady.expecting _ rfl
  · exact StartsName
  · exact nameList_steady.weaken (fun _ opening => opening)
      fun _ follows => ⟨follows.apart, follows.no_comma⟩

/-- Orderings are steady. -/
theorem ordering_steady :
    Steady (expectKeyword .«by» >>= fun _ => list sortItem) (· = .keyword .«by»)
      (Follows [.limit, .offset]) := by
  apply Steady.expecting _ rfl
  · exact StartsName
  · apply (Ready.list sortItem_steady ⟨nofun, nofun, nofun⟩).weaken fun _ opening => opening
    intro terminal follows
    refine ⟨⟨follows.apart, ?_, ?_⟩, follows.no_comma⟩
    · exact follows.ne_keyword (by decide)
    · exact follows.ne_keyword (by decide)

/-- Limits and offsets are steady. -/
theorem bound_steady {words : List Keyword} {word : Keyword} (fresh : word ∉ words)
    (plain : introducesName (.keyword word) = false) :
    Steady (optional word natural) (Follows (word :: words)) (Follows words) := by
  apply optional_steady _ fresh plain
  · exact fun first => ∃ n, first = .integer n
  · exact (Ready.natural _).weaken (fun _ opening => opening) fun _ _ => trivial

/-- The clauses of a query are steady. -/
theorem clauses_steady (items : List SelectItem) (table : String) :
    Steady (clauses items table) (Follows clauseKeywords) (Follows []) := by
  apply (condition_steady (by decide) rfl (by decide)).bind _ fun _ follows => follows
  intro filter
  apply (optional_steady grouping_steady (by decide) rfl).bind _ fun _ follows => follows
  intro groupBy
  apply (condition_steady (by decide) rfl (by decide)).bind _ fun _ follows => follows
  intro having
  apply (optional_steady ordering_steady (by decide) rfl).bind _ fun _ follows => follows
  intro orderBy
  apply (bound_steady (by decide) rfl).bind _ fun _ follows => follows
  intro limit
  apply (bound_steady (by decide) rfl).bind _ fun _ follows => follows
  intro offset
  exact .pure _ _

theorem selectList_steady :
    Steady (list selectItem) (fun first => first = .symbol .star ∨ StartsOperand first)
      fun terminal => EndsItem terminal ∧ terminal ≠ .symbol .comma :=
  Ready.list selectItem_steady ⟨ends_comma, nofun, nofun⟩

/-- Queries are steady. -/
theorem select_steady : Steady select (· = .keyword .select) (Follows []) := by
  apply Steady.expecting _ rfl
  · exact fun first => first = .symbol .star ∨ StartsOperand first
  · apply selectList_steady.bind
    · intro items
      apply Steady.expecting _ rfl
      · exact StartsName
      · apply name_steady.bind (fun table => clauses_steady items table)
        exact fun _ follows => follows.apart
    · rintro _ rfl
      exact ⟨⟨ends_of_none (fun _ => rfl) rfl nofun, nofun, nofun⟩, nofun⟩

/-! ### Changes -/

/-- Assignments are steady. -/
theorem assignment_steady : Steady assignment StartsName (Ends 1) := by
  apply name_steady.bind
  · intro column
    apply Steady.expecting _ rfl
    · exact StartsOperand
    · exact expression_steady.last (Prod.mk column)
  · rintro _ rfl
    nofun

theorem filter_steady :
    Steady (condition .«where») (Follows [.«where»]) (Follows []) :=
  condition_steady List.not_mem_nil rfl (List.nil_subset _)

/-- Updates are steady. -/
theorem update_steady : Steady update (· = .keyword .update) (Follows []) := by
  apply Steady.expecting _ rfl
  · exact StartsName
  · apply name_steady.bind
    · intro table
      apply Steady.expecting _ rfl
      · exact StartsName
      · apply Steady.bind
        · exact Ready.list assignment_steady ends_comma
        · exact fun assignments => filter_steady.last (Update.mk table assignments)
        · exact fun _ follows => ⟨follows.closes (by decide), follows.no_comma⟩
    · rintro _ rfl
      nofun

/-- Removals are steady. -/
theorem delete_steady : Steady delete (· = .keyword .delete) (Follows []) := by
  apply Steady.expecting _ rfl
  · exact (· = .keyword .«from»)
  · apply Steady.expecting _ rfl
    · exact StartsName
    · apply name_steady.bind
      · exact fun table => filter_steady.last (Delete.mk table)
      · exact fun _ follows => follows.apart

end Grammar

end Relational
