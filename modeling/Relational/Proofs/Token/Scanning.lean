import Relational.Proofs.Token.Separation

/-!
# Cutting a text into terminals

Where tokens stand in a text does not matter for which terminals they are.  A text
spells some terminals if the scanner cuts it into tokens with these terminals,
wherever the text starts; the lemmas put one space, one comment or one terminal in
front of a text.
-/

namespace Relational

namespace Token

/-- A text is cut into tokens with some terminals, wherever it starts. -/
def Spells (text : List Char) (terminals : List Terminal) : Prop :=
  ∀ steps place, text.length < steps →
    ∃ tokens, scan steps place text = .ok tokens ∧ tokens.map Token.terminal = terminals

/-- The terminal that a word stands for. -/
def wordTerminal (word : List Char) : Terminal :=
  match Keyword.ofWord? word with
  | some keyword => .keyword keyword
  | none => .name (String.ofList word)

/-- Characters at which neither a space nor a comment starts. -/
def startsTerminal (c : Char) : Bool :=
  !Unicode.isSpace c && c ≠ '-' && c ≠ '/'

/-- Characters at which no text, quoted name or number starts. -/
def startsPlain (c : Char) : Bool :=
  startsTerminal c && c ≠ '\'' && c ≠ '"' && c ≠ '.' && !c.isDigit

/-- A text in front of which a word ends. -/
def endsWord (text : List Char) : Bool :=
  text.head?.all fun next => !continuesName next

variable {c : Char} {text rest more body : List Char} {place : Place} {scanned : Scanned}
  {terminals : List Terminal}

/-- What starts a terminal starts neither a space nor a comment. -/
theorem StartsToken.of_startsTerminal (starts : startsTerminal c) : StartsToken c rest := by
  simp only [startsTerminal, Bool.and_eq_true, Bool.not_eq_true', decide_eq_true_eq] at starts
  obtain ⟨⟨no_space, no_dash⟩, no_slash⟩ := starts
  exact ⟨no_space, fun dashes => no_dash dashes.1, fun opens => no_slash opens.1⟩

theorem endsWord_cons (stop : continuesName c = false) : endsWord (c :: text) := by
  simp [endsWord, stop]

/-- A text spells terminals exactly if it is cut into tokens with these at any place. -/
theorem spells_iff_cut : Spells text terminals ↔
    ∀ place, ∃ tokens, Cut place text (.ok tokens) ∧ tokens.map Token.terminal = terminals := by
  constructor
  · intro spells place
    obtain ⟨tokens, cuts, named⟩ := spells _ place (Nat.lt_succ_self _)
    exact ⟨tokens, cuts ▸ cut_scan (Nat.lt_succ_self _), named⟩
  · intro each steps place enough
    obtain ⟨tokens, cut, named⟩ := each place
    exact ⟨tokens, cut.scan_eq enough, named⟩

namespace Spells

theorem nil : Spells [] [.endOfInput] :=
  spells_iff_cut.mpr fun place => ⟨_, .nothing place, rfl⟩

/-- White space in front of a text spells nothing. -/
theorem space (blank : Unicode.isSpace c = true) (spells : Spells text terminals) :
    Spells (c :: text) terminals := by
  rw [spells_iff_cut] at spells ⊢
  intro place
  obtain ⟨tokens, cut, named⟩ := spells (place.next c)
  exact ⟨tokens, .space blank cut, named⟩

/-- A comment that ends with its line spells nothing. -/
theorem lineComment (spells : Spells (text.dropWhile (· ≠ '\n')) terminals) :
    Spells ('-' :: '-' :: text) terminals := by
  rw [spells_iff_cut] at spells ⊢
  intro place
  obtain ⟨tokens, cut, named⟩ := spells _
  exact ⟨tokens, .lineComment cut, named⟩

/-- A comment between delimiters spells nothing. -/
theorem blockComment (closes : blockComment? text = some (body, rest))
    (spells : Spells rest terminals) : Spells ('/' :: '*' :: text) terminals := by
  rw [spells_iff_cut] at spells ⊢
  intro place
  obtain ⟨tokens, cut, named⟩ := spells _
  exact ⟨tokens, .blockComment closes cut, named⟩

/-- A text spells the terminal that is scanned at its front before those of the rest. -/
theorem token (starts : StartsToken c text) (found : scanTerminal c text place = .ok scanned)
    (spells : Spells scanned.rest terminals) :
    Spells (c :: text) (scanned.terminal :: terminals) := by
  rw [spells_iff_cut] at spells ⊢
  intro place
  obtain ⟨tokens, cut, named⟩ := spells (place.after scanned.lexeme)
  exact ⟨_, .token starts (scanTerminal_place found place) cut, congrArg (_ :: ·) named⟩

/-- A name or keyword is spelled by its characters, in front of what cannot go on in it. -/
theorem word (plain : startsPlain c) (starts : startsName c)
    (continues : (c :: more).all continuesName)
    (stops : endsWord rest) (spells : Spells rest terminals) :
    Spells (c :: (more ++ rest)) (wordTerminal (c :: more) :: terminals) := by
  have consumed : scanWord (c :: (more ++ rest)) = ⟨wordTerminal (c :: more), c :: more, rest⟩ := by
    have none_left : rest.takeWhile continuesName = [] ∧ rest.dropWhile continuesName = rest := by
      cases rest with
      | nil => exact ⟨rfl, rfl⟩
      | cons next behind =>
          have stop : continuesName next = false := by simpa [endsWord] using stops
          exact ⟨List.takeWhile_cons_of_neg (by simp [stop]),
            List.dropWhile_cons_of_neg (by simp [stop])⟩
    have all := List.all_eq_true.mp continues
    rw [scanWord, ← List.cons_append, List.takeWhile_append_of_pos all,
      List.dropWhile_append_of_pos all, none_left.1, none_left.2, List.append_nil]
    rfl
  simp only [startsPlain, Bool.and_eq_true, Bool.not_eq_true', decide_eq_true_eq] at plain
  obtain ⟨⟨⟨⟨terminal, no_quote⟩, no_mark⟩, no_point⟩, no_digit⟩ := plain
  have found : scanTerminal c (more ++ rest) Place.start =
      .ok ⟨wordTerminal (c :: more), c :: more, rest⟩ := by
    rw [scanTerminal, if_neg no_quote, if_neg no_mark, if_neg (by simp [no_point, no_digit]),
      if_pos starts, consumed]
  exact token (.of_startsTerminal terminal) found spells

/-- A sign of one character is spelled by this character. -/
theorem symbol {sign : Symbol} (plain : startsPlain c) (no_name : startsName c = false)
    (found : scanSymbol? (c :: text) = some ⟨.symbol sign, [c], text⟩)
    (spells : Spells text terminals) : Spells (c :: text) (.symbol sign :: terminals) := by
  simp only [startsPlain, Bool.and_eq_true, Bool.not_eq_true', decide_eq_true_eq] at plain
  obtain ⟨⟨⟨⟨terminal, no_quote⟩, no_mark⟩, no_point⟩, no_digit⟩ := plain
  have found' : scanTerminal c text Place.start = .ok ⟨.symbol sign, [c], text⟩ := by
    rw [scanTerminal, if_neg no_quote, if_neg no_mark, if_neg (by simp [no_point, no_digit]),
      if_neg (by simp [no_name]), found]
  exact token (.of_startsTerminal terminal) found' spells

end Spells

/-- A text is read as a statement if the terminals that it spells form one. -/
theorem exists_ofText {text : String} (spells : Spells text.toList terminals) :
    ∃ tokens, ofText text = .ok tokens ∧ tokens.map Token.terminal = terminals :=
  spells _ _ (Nat.lt_succ_self _)

end Token

end Relational
