import Relational.Proofs.Token.Cutting

/-!
# Spaces separate tokens

Whatever stands behind a space, or whether anything does, makes no difference to the
terminal at the front of a text: no terminal but a quoted one has a space in it, and
no scanner looks past one to find out where a terminal ends.  Nor does it make a
difference to a terminal where in the text it stands.
-/

namespace Relational

namespace Unicode

/-- A property that no white space has. -/
theorem eq_false_of_isSpace {c : Char} (property : Char → Bool) (blank : isSpace c = true)
    (solid : ∀ range ∈ whiteSpaceRanges, ∀ code ∈ List.range' range.1 (range.2 + 1 - range.1),
      property (Char.ofNat code) = false) : property c = false := by
  obtain ⟨range, member, inside⟩ := List.any_eq_true.mp blank
  obtain ⟨low, high⟩ := Bool.and_eq_true_iff.mp inside
  have listed : c.toNat ∈ List.range' range.1 (range.2 + 1 - range.1) := by
    rw [List.mem_range'_1]
    have low := of_decide_eq_true low
    have high := of_decide_eq_true high
    omega
  rw [← Char.ofNat_toNat c]
  exact solid range member _ listed

end Unicode

namespace Place

theorem next_offset (place : Place) (c : Char) : (place.next c).offset = place.offset + 1 := by
  unfold next
  split <;> rfl

/-- The offset behind a text is greater by its length. -/
theorem after_offset (place : Place) (text : List Char) :
    (place.after text).offset = place.offset + text.length := by
  induction text generalizing place with
  | nil => rfl
  | cons c rest ih =>
      change ((place.next c).after rest).offset = _
      rw [ih, next_offset, List.length_cons]
      omega

end Place

/-- A token as if it stood at the start of a text. -/
def Token.unplaced (token : Token) : Token :=
  { token with place := Place.start }

namespace SyntaxFault

/-- The same fault some characters later in a text. -/
def moved (distance : Nat) : SyntaxFault → SyntaxFault
  | .unexpectedCharacter c position => .unexpectedCharacter c (position + distance)
  | .unterminatedComment position => .unterminatedComment (position + distance)
  | .unterminatedString position => .unterminatedString (position + distance)
  | .unterminatedName position => .unterminatedName (position + distance)
  | .invalidNumber numeral position => .invalidNumber numeral (position + distance)
  | .integerOutOfRange numeral position => .integerOutOfRange numeral (position + distance)
  | fault => fault

end SyntaxFault

namespace Token

variable {c : Char} {text more rest body value name : List Char} {place place' : Place}
  {scanned : Scanned}

/-! ### Places -/

/-- A number is scanned alike at another place, but for the place of the fault. -/
theorem scanNumber_moved {distance : Nat} (apart : place.offset = place'.offset + distance) :
    scanNumber text place = (scanNumber text place').mapError (·.moved distance) := by
  unfold scanNumber
  dsimp only
  split <;> split <;> simp [Except.mapError, SyntaxFault.moved, apart]

/-- A terminal is the same wherever it stands, and a fault names its place. -/
theorem scanTerminal_moved {distance : Nat} (apart : place.offset = place'.offset + distance) :
    scanTerminal c rest place = (scanTerminal c rest place').mapError (·.moved distance) := by
  unfold scanTerminal
  split
  · split <;> simp [Except.mapError, SyntaxFault.moved, apart]
  split
  · split <;> simp [Except.mapError, SyntaxFault.moved, apart]
  split
  · exact scanNumber_moved apart
  split
  · rfl
  · split <;> simp [Except.mapError, SyntaxFault.moved, apart]

/-- What is scanned does not depend on its place. -/
theorem scanTerminal_place (found : scanTerminal c rest place = .ok scanned) (place' : Place) :
    scanTerminal c rest place' = .ok scanned := by
  have origin (other : Place) : scanTerminal c rest other =
      (scanTerminal c rest ⟨0, 1, 1⟩).mapError (·.moved other.offset) :=
    scanTerminal_moved (Nat.zero_add _).symm
  rw [origin] at found ⊢
  cases first : scanTerminal c rest ⟨0, 1, 1⟩ with
  | error fault => simp [first, Except.mapError] at found
  | ok scanned' =>
      rw [first] at found
      exact found

/-! ### Spaces -/

/-- Nothing, or a text that starts with a space. -/
def separates (text : List Char) : Bool :=
  text.head?.all Unicode.isSpace

theorem continuesName_of_isSpace (blank : Unicode.isSpace c = true) : continuesName c = false :=
  Unicode.eq_false_of_isSpace continuesName blank (by decide +kernel)

theorem isDigit_of_isSpace (blank : Unicode.isSpace c = true) : c.isDigit = false :=
  Unicode.eq_false_of_isSpace Char.isDigit blank (by decide +kernel)

/-- A digit is no white space. -/
theorem isSpace_of_isDigit (digit : c.isDigit = true) : Unicode.isSpace c = false := by
  cases blank : Unicode.isSpace c with
  | false => rfl
  | true =>
      rw [isDigit_of_isSpace blank] at digit
      cases digit

/-- The characters with a part of their own in some scanner. -/
def marks : List Char :=
  ['\'', '"', '.', 'e', 'E', '+', '-', '*', '/', '=', '<', '>', '!', '(', ')', ',', ';']

/-- What has a property is not among characters without it. -/
theorem not_mem_of_any_eq_false {chars : List Char} {property : Char → Bool}
    (holds : property c = true) (none : chars.any property = false) : c ∉ chars :=
  fun member => List.any_eq_false.mp none c member holds

theorem not_mem_marks_of_isSpace (blank : Unicode.isSpace c = true) : c ∉ marks :=
  not_mem_of_any_eq_false blank (by decide +kernel)

/-- What was scanned, with more text behind what is left. -/
def Scanned.before (more : List Char) (scanned : Scanned) : Scanned :=
  { scanned with rest := scanned.rest ++ more }

/-- A run of characters of a class ends where more text begins with another one. -/
theorem takeWhile_append_of_stops {inside : Char → Bool}
    (stops : ∀ c, more.head? = some c → inside c = false) (text : List Char) :
    (text ++ more).takeWhile inside = text.takeWhile inside ∧
      (text ++ more).dropWhile inside = text.dropWhile inside ++ more := by
  induction text with
  | nil =>
      cases more with
      | nil => exact ⟨rfl, rfl⟩
      | cons c rest =>
          have outside := stops c rfl
          exact ⟨List.takeWhile_cons_of_neg (by simp [outside]),
            List.dropWhile_cons_of_neg (by simp [outside])⟩
  | cons c rest ih =>
      cases within : inside c with
      | true => simpa [within] using ih
      | false => simp [within]

theorem isSpace_of_head? (separate : separates more) (first : more.head? = some c) :
    Unicode.isSpace c = true := by
  simpa [separates, first] using separate

theorem digits_append (separate : separates more) (text : List Char) :
    (text ++ more).takeWhile Char.isDigit = text.takeWhile Char.isDigit :=
  (takeWhile_append_of_stops
    (fun _ first => isDigit_of_isSpace (isSpace_of_head? separate first)) text).1

/-- A fraction does not go on in a text that separates. -/
theorem fractionLength_append (separate : separates more) :
    fractionLength (text ++ more) = fractionLength text := by
  cases text with
  | nil =>
      cases more with
      | nil => rfl
      | cons c rest =>
          have blank := isSpace_of_head? separate List.head?_cons
          have no_point : c ≠ '.' := by
            rintro rfl
            exact absurd blank (by decide)
          simp [fractionLength, no_point]
  | cons c rest =>
      by_cases point : c = '.'
      · subst point
        simp only [List.cons_append, fractionLength, digits_append separate]
      · simp [fractionLength, point]

/-- An exponent does not go on in a text that separates. -/
theorem exponentLength_append (separate : separates more) :
    exponentLength (text ++ more) = exponentLength text := by
  cases more with
  | nil => rw [List.append_nil]
  | cons d behind =>
      have blank := isSpace_of_head? separate List.head?_cons
      have no_digit := isDigit_of_isSpace blank
      have no_mark := not_mem_marks_of_isSpace blank
      simp only [marks, List.mem_cons, not_or] at no_mark
      match text with
      | [] => rcases behind with _ | ⟨x, _ | ⟨y, rest⟩⟩ <;> simp [exponentLength, no_mark]
      | [mark] => cases behind <;> simp [exponentLength, no_mark, no_digit]
      | [mark, sign] =>
          have unsigned : sign = '+' ∨ sign = '-' → sign.isDigit = false := by
            rintro (rfl | rfl) <;> rfl
          simp only [List.cons_append, List.nil_append, exponentLength, no_digit,
            List.takeWhile_cons]
          grind
      | mark :: sign :: digit :: rest =>
          have inner := digits_append separate rest
          have outer := digits_append separate (digit :: rest)
          rw [List.cons_append] at outer
          simp only [List.cons_append, exponentLength, inner, outer]

/-- A fraction is not longer than the text. -/
theorem fractionLength_le (text : List Char) : fractionLength text ≤ text.length := by
  unfold fractionLength
  split
  · rename_i rest
    have shorter := (List.takeWhile_sublist Char.isDigit (l := rest)).length_le
    rw [List.length_cons]
    omega
  · exact Nat.zero_le _

/-- An exponent is not longer than the text. -/
theorem exponentLength_le (text : List Char) : exponentLength text ≤ text.length := by
  fun_cases exponentLength text with
  | case2 mark sign digit rest =>
      have shorter := (List.takeWhile_sublist Char.isDigit (l := rest)).length_le
      simp only [List.length_cons]
      omega
  | case4 mark sign digit rest =>
      have shorter := (List.takeWhile_sublist Char.isDigit (l := digit :: rest)).length_le
      simp only [List.length_cons] at shorter ⊢
      omega
  | case6 => exact Nat.le_refl 2
  | _ => exact Nat.zero_le _

/-- A number is scanned alike in front of a text that separates. -/
theorem scanNumber_append (separate : separates more) (text : List Char) :
    scanNumber (text ++ more) place = (scanNumber text place).map (·.before more) := by
  have whole := (List.takeWhile_sublist Char.isDigit (l := text)).length_le
  have fraction := fractionLength_le (text.drop (text.takeWhile Char.isDigit).length)
  rw [List.length_drop] at fraction
  have exponent := exponentLength_le (text.drop ((text.takeWhile Char.isDigit).length +
    fractionLength (text.drop (text.takeWhile Char.isDigit).length)))
  rw [List.length_drop] at exponent
  unfold scanNumber
  simp only [digits_append separate]
  rw [List.drop_append_of_le_length whole, fractionLength_append separate,
    List.drop_append_of_le_length (by omega), exponentLength_append separate,
    List.take_append_of_le_length (by omega), List.drop_append_of_le_length (by omega)]
  split
  · split <;> rfl
  · split <;> rfl

/-- A space in front of a text hides every mark in it. -/
theorem not_headed_append (separate : separates more) (mark : c ∈ marks)
    (unlike : ∀ rest, text = c :: rest → False) (rest : List Char) :
    text ++ more = c :: rest → False := by
  intro headed
  cases text with
  | nil =>
      rw [List.nil_append] at headed
      have blank := isSpace_of_head? separate (headed ▸ List.head?_cons)
      exact not_mem_marks_of_isSpace blank mark
  | cons d behind =>
      cases headed
      exact unlike behind rfl

/-- A symbol is scanned alike in front of a text that separates. -/
theorem scanSymbol?_append (separate : separates more) (nonempty : text ≠ []) :
    scanSymbol? (text ++ more) = (scanSymbol? text).map (·.before more) := by
  fun_cases scanSymbol? text with
  | case5 rest no_equal no_greater =>
      exact scanSymbol?.eq_5 (rest ++ more) (not_headed_append separate (by decide) no_equal)
        (not_headed_append separate (by decide) no_greater)
  | case7 rest no_equal =>
      exact scanSymbol?.eq_7 (rest ++ more) (not_headed_append separate (by decide) no_equal)
  | case17 _ equal different lessEqual notEqual less greaterEqual greater plus minus star slash
      leftParen rightParen comma semicolon dot =>
      have lone : ∀ rest, text ++ more = '!' :: '=' :: rest → False := by
        intro rest headed
        obtain ⟨c, behind, rfl⟩ := List.exists_cons_of_ne_nil nonempty
        obtain ⟨rfl, second⟩ := List.cons.inj headed
        have single : ∀ rest, behind = '=' :: rest → False :=
          fun rest same => different rest (congrArg ('!' :: ·) same)
        exact not_headed_append separate (by decide) single rest second
      have less := not_headed_append separate (by decide) less
      have greater := not_headed_append separate (by decide) greater
      exact scanSymbol?.eq_17 _ (not_headed_append separate (by decide) equal) lone
        (fun _ => less _) (fun _ => less _) less (fun _ => greater _) greater
        (not_headed_append separate (by decide) plus) (not_headed_append separate (by decide) minus)
        (not_headed_append separate (by decide) star) (not_headed_append separate (by decide) slash)
        (not_headed_append separate (by decide) leftParen)
        (not_headed_append separate (by decide) rightParen)
        (not_headed_append separate (by decide) comma)
        (not_headed_append separate (by decide) semicolon)
        (not_headed_append separate (by decide) dot)
  | _ => rfl

/-- A word is scanned alike in front of a text that separates. -/
theorem scanWord_append (separate : separates more) (text : List Char) :
    scanWord (text ++ more) = (scanWord text).before more := by
  obtain ⟨taken, left⟩ := takeWhile_append_of_stops
    (fun _ first => continuesName_of_isSpace (isSpace_of_head? separate first)) text
  rw [scanWord, taken, left]
  rfl

/-- A closed comment is read the same in front of anything. -/
theorem blockComment?_append (closes : blockComment? text = some (body, rest)) :
    blockComment? (text ++ more) = some (body, rest ++ more) := by
  fun_induction blockComment? text generalizing body with
  | case1 => cases closes
  | case2 rest' =>
      cases closes
      rfl
  | case3 c rest' unclosed ih =>
      obtain ⟨⟨inner, after⟩, closes, result⟩ := Option.map_eq_some_iff.mp closes
      cases result
      have later : ∀ behind, c = '*' → rest' ++ more = '/' :: behind → False := by
        intro behind star slash
        cases rest' with
        | nil => cases closes
        | cons d rest' =>
            obtain ⟨rfl, -⟩ := List.cons.inj slash
            exact unclosed rest' star rfl
      rw [List.cons_append, blockComment?.eq_3 _ _ later, ih closes]
      rfl

/-- A closed quotation is read the same in front of whatever does not prolong it. -/
theorem quotedText?_append (separate : separates more)
    (closes : quotedText? text = some (value, body, rest)) :
    quotedText? (text ++ more) = some (value, body, rest ++ more) := by
  fun_induction quotedText? text generalizing value body with
  | case1 => cases closes
  | case2 rest' ih =>
      obtain ⟨⟨inner, kept, after⟩, closes, result⟩ := Option.map_eq_some_iff.mp closes
      cases result
      rw [List.cons_append, List.cons_append, quotedText?, ih closes]
      rfl
  | case3 rest' single =>
      cases closes
      have alone := not_headed_append separate (by decide) fun behind same => single behind rfl same
      exact (quotedText?.eq_3 _ _ fun behind _ => alone behind).trans (if_pos rfl)
  | case4 c rest' _ different ih =>
      obtain ⟨⟨inner, kept, after⟩, closes, result⟩ := Option.map_eq_some_iff.mp closes
      cases result
      rw [List.cons_append, quotedText?.eq_3 _ _ fun _ same => absurd same different,
        if_neg different, ih closes]
      rfl

/-- A quoted name that is closed is read alike in front of more text. -/
theorem quotedName?_append (closes : quotedName? text = some (name, rest)) :
    quotedName? (text ++ more) = some (name, rest ++ more) := by
  obtain ⟨rfl, name⟩ := quotedName?_eq_some_iff.mp closes
  exact quotedName?_eq_some_iff.mpr ⟨List.append_assoc _ _ _, name⟩

/-- A token starts alike in front of a text that separates. -/
theorem StartsToken.append (separate : separates more) (starts : StartsToken c text) :
    StartsToken c (text ++ more) := by
  have kept {d : Char} (mark : d ∈ marks) (other : text.head? ≠ some d) :
      (text ++ more).head? ≠ some d := by
    intro headed
    obtain ⟨behind, headed⟩ := List.head?_eq_some_iff.mp headed
    refine not_headed_append separate mark (fun rest same => other ?_) behind headed
    rw [same, List.head?_cons]
  refine ⟨starts.no_space, fun dashes => ?_, fun opens => ?_⟩
  · exact kept (by decide) (fun second => starts.no_lineComment ⟨dashes.1, second⟩) dashes.2
  · exact kept (by decide) (fun second => starts.no_blockComment ⟨opens.1, second⟩) opens.2

/-- A quotation that is opened at the front of a text is never closed in it. -/
def LeavesOpen (c : Char) (text : List Char) : Prop :=
  (c = '\'' ∧ quotedText? text = none) ∨ (c = '"' ∧ quotedName? text = none)

/-- What is scanned as a terminal is not a quotation that stays open. -/
theorem not_leavesOpen (found : scanTerminal c rest place = .ok scanned) :
    ¬ LeavesOpen c rest := by
  rintro (⟨rfl, never⟩ | ⟨rfl, never⟩)
  · simp [scanTerminal, never] at found
  · simp [scanTerminal, never] at found

/-- What stands behind a space makes no difference to the terminal at the front of a
text, unless the space belongs to an open quotation. -/
theorem scanTerminal_append (separate : separates more) (closed : ¬ LeavesOpen c text)
    (place : Place) :
    scanTerminal c (text ++ more) place = (scanTerminal c text place).map (·.before more) := by
  have digit_follows : (text ++ more).head?.any Char.isDigit = text.head?.any Char.isDigit := by
    cases text with
    | cons d behind => rfl
    | nil =>
        cases more with
        | nil => rfl
        | cons d behind => exact isDigit_of_isSpace (isSpace_of_head? separate List.head?_cons)
  unfold scanTerminal
  rw [digit_follows]
  split
  · rename_i quote
    cases closes : quotedText? text with
    | none => exact absurd (.inl ⟨quote, closes⟩) closed
    | some found => rw [quotedText?_append separate closes]; rfl
  split
  · rename_i mark
    cases closes : quotedName? text with
    | none => exact absurd (.inr ⟨mark, closes⟩) closed
    | some found => rw [quotedName?_append closes]; rfl
  split
  · exact scanNumber_append separate (c :: text)
  split
  · exact congrArg Except.ok (scanWord_append separate (c :: text))
  · have symbol := scanSymbol?_append separate (List.cons_ne_nil c text)
    rw [List.cons_append] at symbol
    rw [symbol]
    cases scanSymbol? (c :: text) <;> rfl

end Token

end Relational
