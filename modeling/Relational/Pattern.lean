/-!
# Text patterns

In a pattern `%` stands for any text, none included, and `_` for any one
character; every other character stands for itself, ASCII letters for both
cases.  The patterns that need no search are recognized when a pattern is
compiled; the others are matched greedily, trying again only at the last `%`.
Compiling looks at nothing but the text of a pattern, so that it makes no difference
whether a compiled pattern is kept for the next row.
-/

namespace Relational

namespace Pattern

/-- What a character of a pattern stands for. -/
inductive Element where
  | exactly (c : Char)
  | anyCharacter
  | anyText
deriving DecidableEq, Repr

/-- What one character of a pattern stands for. -/
def Element.ofChar (c : Char) : Element :=
  if c = '%' then .anyText else if c = '_' then .anyCharacter else .exactly c

end Pattern

/-- A pattern ready for matching. -/
inductive Pattern where
  | whole (text : List Char)
  | startsWith (text : List Char)
  | endsWith (text : List Char)
  | contains (text : List Char)
  | general (elements : List Pattern.Element)
deriving DecidableEq, Repr

namespace Pattern

/-- Characters with ASCII letters in lower case. -/
def fold (text : String) : List Char :=
  text.toList.map Char.toLower

/-- The pattern that is matched element by element. -/
def elementwise (pattern : List Char) : Pattern :=
  .general (pattern.map Element.ofChar)

/-- The pattern that folded characters spell. -/
def ofFolded (pattern : List Char) : Pattern :=
  if '_' ∈ pattern then elementwise pattern
  else if '%' ∉ pattern then .whole pattern
  else
    let opened := pattern.head? = some '%'
    let closed := pattern.getLast? = some '%'
    if !opened && closed && '%' ∉ pattern.dropLast then .startsWith pattern.dropLast
    else if opened && !closed && '%' ∉ pattern.tail then .endsWith pattern.tail
    else if opened && closed && 2 ≤ pattern.length && '%' ∉ pattern.tail.dropLast then
      .contains pattern.tail.dropLast
    else elementwise pattern

/-- The pattern that a text spells. -/
def compile (pattern : String) : Pattern :=
  ofFolded (fold pattern)

/-- Whether a text occurs anywhere in another one. -/
def occursIn (part : List Char) : List Char → Bool
  | [] => part.isEmpty
  | c :: rest => part.isPrefixOf (c :: rest) || occursIn part rest

/-- How far elements up to the next `%` match the front of a text. -/
inductive Progress where
  /-- The text has ended; the elements left over stand for nothing or not. -/
  | ended (accepted : Bool)
  /-- A `%` was reached, with elements behind it and text left over. -/
  | atAnyText (elements : List Element) (text : List Char)
  /-- A character does not match its element. -/
  | stuck
deriving DecidableEq, Repr

/-- Match elements with the front of a text up to the next `%`. -/
def advance : List Char → List Element → Progress
  | [], elements => .ended (elements.all (· = .anyText))
  | _ :: _, [] => .stuck
  | c :: rest, .anyText :: elements => .atAnyText elements (c :: rest)
  | _ :: rest, .anyCharacter :: elements => advance rest elements
  | c :: rest, .exactly d :: elements => if c = d then advance rest elements else .stuck

/-- Reaching a `%` consumes it and never adds text. -/
theorem advance_atAnyText {text : List Char} {elements elementsLeft : List Element}
    {textLeft : List Char} (reached : advance text elements = .atAnyText elementsLeft textLeft) :
    textLeft.length ≤ text.length ∧ elementsLeft.length < elements.length := by
  induction text generalizing elements with
  | nil => simp [advance] at reached
  | cons c rest ih =>
    cases elements with
    | nil => simp [advance] at reached
    | cons element others =>
      cases element with
      | anyText =>
        simp only [advance, Progress.atAnyText.injEq] at reached
        obtain ⟨rfl, rfl⟩ := reached
        simp
      | anyCharacter =>
        have bounds := ih (by simpa only [advance] using reached)
        simp only [List.length_cons]
        omega
      | exactly d =>
        by_cases equal : c = d
        · have bounds := ih (by simpa only [advance, if_pos equal] using reached)
          simp only [List.length_cons]
          omega
        · simp [advance, equal] at reached

/-- Match elements with some part at the end of a text, at the first place
where the elements up to the next `%` match. -/
def search (elements : List Element) (text : List Char) : Bool :=
  match _reached : advance text elements with
  | .ended accepted => accepted
  | .atAnyText elementsLeft textLeft => search elementsLeft textLeft
  | .stuck =>
    match text with
    | [] => false
    | _ :: rest => search elements rest
termination_by (text.length, elements.length)
decreasing_by
  · have bounds := advance_atAnyText _reached
    simp only [Prod.lex_def]
    omega
  · simp [Prod.lex_def]

/-- Match elements with a whole text. -/
def matchElements (elements : List Element) (text : List Char) : Bool :=
  match advance text elements with
  | .ended accepted => accepted
  | .atAnyText elementsLeft textLeft => search elementsLeft textLeft
  | .stuck => false

/-- Whether a pattern matches folded characters. -/
def matchesFolded : Pattern → List Char → Bool
  | .whole expected, text => text == expected
  | .startsWith part, text => part.isPrefixOf text
  | .endsWith part, text => part.isSuffixOf text
  | .contains part, text => occursIn part text
  | .general elements, text => matchElements elements text

/-- Whether a pattern matches a text. -/
def accepts (pattern : Pattern) (text : String) : Bool :=
  pattern.matchesFolded (fold text)

end Pattern

end Relational
