import Mathlib.Data.List.TakeWhile
import Relational.Token.Lexer

/-!
# How a text is cut

A text is cut by taking one space, one comment or one terminal after another from
its front, until nothing is left or something at the front is refused.  The relation
says so without a bound on the number of steps; the scanner follows it whenever its
bound exceeds the length of the text, since everything that it takes away is there
and is not empty.
-/

namespace Relational

namespace Token

variable {c : Char} {text rest body value name : List Char} {place : Place}
  {scanned : Scanned} {fault : SyntaxFault} {outcome : Except SyntaxFault (List Token)}

/-! ### What the scanners take away -/

/-- The body of a comment and what is behind it make up the text. -/
theorem blockComment?_eq_some (closes : blockComment? text = some (body, rest)) :
    text = body ++ rest := by
  fun_induction blockComment? text generalizing body with
  | case1 => cases closes
  | case2 rest' =>
      cases closes
      rfl
  | case3 c rest' _ ih =>
      obtain ⟨⟨inner, after⟩, closes, result⟩ := Option.map_eq_some_iff.mp closes
      cases result
      exact congrArg (c :: ·) (ih closes)

/-- The body of a quotation and what is behind it make up the text. -/
theorem quotedText?_eq_some (closes : quotedText? text = some (value, body, rest)) :
    text = body ++ rest := by
  fun_induction quotedText? text generalizing value body with
  | case1 => cases closes
  | case2 rest' ih =>
      obtain ⟨⟨inner, kept, after⟩, closes, result⟩ := Option.map_eq_some_iff.mp closes
      cases result
      exact congrArg ('\'' :: '\'' :: ·) (ih closes)
  | case3 rest' _ =>
      cases closes
      rfl
  | case4 c rest' _ different ih =>
      obtain ⟨⟨inner, kept, after⟩, closes, result⟩ := Option.map_eq_some_iff.mp closes
      cases result
      exact congrArg (c :: ·) (ih closes)

/-- A quoted name goes up to the first quote and is not empty. -/
theorem quotedName?_eq_some_iff : quotedName? text = some (name, rest) ↔
    text = name ++ '"' :: rest ∧ name ≠ [] ∧ '"' ∉ name := by
  unfold quotedName?
  constructor
  · intro closes
    split at closes
    · cases closes
    · cases closes
    · rename_i left nonempty
      cases closes
      have stops := List.head?_dropWhile_not (· ≠ '"') text
      rw [left] at stops
      cases not_not.mp (of_decide_eq_false stops)
      refine ⟨?_, nonempty, fun member => ?_⟩
      · rw [← left, List.takeWhile_append_dropWhile]
      · have outside := List.mem_takeWhile_imp member
        exact of_decide_eq_true outside rfl
  · rintro ⟨rfl, nonempty, single⟩
    have plain : ∀ c ∈ name, decide (c ≠ '"') = true :=
      fun c member => decide_eq_true fun same => single (same ▸ member)
    rw [List.takeWhile_append_of_pos plain, List.dropWhile_append_of_pos plain,
      List.takeWhile_cons_of_neg (by simp), List.dropWhile_cons_of_neg (by simp), List.append_nil]
    obtain ⟨c, name, rfl⟩ := List.exists_cons_of_ne_nil nonempty
    rfl

/-- What was scanned and what is left make up a text, and something was scanned. -/
structure Scanned.Splits (scanned : Scanned) (text : List Char) : Prop where
  whole : scanned.lexeme ++ scanned.rest = text
  nonempty : scanned.lexeme ≠ []

theorem Scanned.Splits.length_lt (splits : scanned.Splits text) :
    scanned.rest.length < text.length := by
  rw [← splits.whole, List.length_append]
  exact Nat.lt_add_of_pos_left (List.length_pos_iff.mpr splits.nonempty)

/-- What is scanned of a number and what is left make up the text. -/
theorem scanNumber_splits (starts : c.isDigit ∨ c = '.')
    (found : scanNumber (c :: rest) place = .ok scanned) : scanned.Splits (c :: rest) := by
  have taken : 0 < ((c :: rest).takeWhile Char.isDigit).length +
      fractionLength ((c :: rest).drop ((c :: rest).takeWhile Char.isDigit).length) := by
    rcases starts with digit | rfl
    · rw [List.takeWhile_cons_of_pos digit, List.length_cons]
      omega
    · rw [List.takeWhile_cons_of_neg (by decide), List.length_nil, List.drop_zero, fractionLength]
      omega
  have nonempty : ∀ more, (c :: rest).take (((c :: rest).takeWhile Char.isDigit).length +
      fractionLength ((c :: rest).drop ((c :: rest).takeWhile Char.isDigit).length) + more) ≠ [] := by
    intro more none
    rcases List.take_eq_nil_iff.mp none with zero | empty
    · omega
    · exact List.cons_ne_nil c rest empty
  unfold scanNumber at found
  dsimp only at found
  split at found <;> split at found <;> cases found
  · exact ⟨List.take_append_drop _ _, nonempty _⟩
  · exact ⟨List.take_append_drop _ _, nonempty _⟩

/-- A character that starts a name may go on in it. -/
theorem continuesName_of_startsName (starts : startsName c = true) : continuesName c = true := by
  unfold startsName at starts
  unfold continuesName Unicode.isAlphanumeric
  rcases Bool.or_eq_true_iff.mp starts with alphabetic | underscore
  · simp [alphabetic]
  · simp [underscore]

theorem scanWord_splits (starts : startsName c = true) : (scanWord (c :: rest)).Splits (c :: rest) :=
  ⟨List.takeWhile_append_dropWhile, by
    rw [scanWord, List.takeWhile_cons_of_pos (continuesName_of_startsName starts)]
    exact List.cons_ne_nil _ _⟩

theorem scanSymbol?_splits (found : scanSymbol? text = some scanned) : scanned.Splits text := by
  unfold scanSymbol? at found
  split at found <;> cases found <;> exact ⟨rfl, List.cons_ne_nil _ _⟩

/-- What is scanned of a terminal and what is left make up the text. -/
theorem scanTerminal_splits (found : scanTerminal c rest place = .ok scanned) :
    scanned.Splits (c :: rest) := by
  unfold scanTerminal at found
  split at found
  · rename_i quote
    split at found <;> cases found
    rename_i closes
    exact ⟨by rw [quotedText?_eq_some closes, quote]; rfl, List.cons_ne_nil _ _⟩
  split at found
  · rename_i mark
    split at found <;> cases found
    rename_i closes
    exact ⟨by rw [(quotedName?_eq_some_iff.mp closes).1, mark]; simp, List.cons_ne_nil _ _⟩
  split at found
  · rename_i starts
    refine scanNumber_splits ?_ found
    rcases Bool.or_eq_true_iff.mp starts with digit | point
    · exact .inl digit
    · exact .inr (of_decide_eq_true (Bool.and_eq_true_iff.mp point).1)
  split at found
  · rename_i starts
    cases found
    exact scanWord_splits starts
  split at found <;> cases found
  rename_i found
  exact scanSymbol?_splits found

/-! ### Cutting -/

/-- Neither a space nor a comment starts here. -/
structure StartsToken (c : Char) (rest : List Char) : Prop where
  no_space : Unicode.isSpace c = false
  no_lineComment : ¬ (c = '-' ∧ rest.head? = some '-')
  no_blockComment : ¬ (c = '/' ∧ rest.head? = some '*')

/-- A text at a place is cut into tokens, or refused. -/
inductive Cut : Place → List Char → Except SyntaxFault (List Token) → Prop
  | nothing (place : Place) : Cut place [] (.ok [⟨.endOfInput, "", place⟩])
  | space {place : Place} {c : Char} {rest : List Char}
      {outcome : Except SyntaxFault (List Token)} (blank : Unicode.isSpace c = true)
      (behind : Cut (place.next c) rest outcome) : Cut place (c :: rest) outcome
  | lineComment {place : Place} {text : List Char} {outcome : Except SyntaxFault (List Token)}
      (behind : Cut (place.after ('-' :: '-' :: text.takeWhile (· ≠ '\n')))
        (text.dropWhile (· ≠ '\n')) outcome) : Cut place ('-' :: '-' :: text) outcome
  | blockComment {place : Place} {text body rest : List Char}
      {outcome : Except SyntaxFault (List Token)}
      (closes : blockComment? text = some (body, rest))
      (behind : Cut (place.after ('/' :: '*' :: body)) rest outcome) :
      Cut place ('/' :: '*' :: text) outcome
  | openComment {place : Place} {text : List Char} (never : blockComment? text = none) :
      Cut place ('/' :: '*' :: text) (.error (.unterminatedComment place.offset))
  | refused {place : Place} {c : Char} {rest : List Char} {fault : SyntaxFault}
      (starts : StartsToken c rest) (refuses : scanTerminal c rest place = .error fault) :
      Cut place (c :: rest) (.error fault)
  | token {place : Place} {c : Char} {rest : List Char} {scanned : Scanned}
      {outcome : Except SyntaxFault (List Token)} (starts : StartsToken c rest)
      (found : scanTerminal c rest place = .ok scanned)
      (behind : Cut (place.after scanned.lexeme) scanned.rest outcome) :
      Cut place (c :: rest)
        (outcome.map (⟨scanned.terminal, String.ofList scanned.lexeme, place⟩ :: ·))

/-- Scanning cuts a text in tokens or refuses it. -/
theorem cut_scan {steps : Nat} (enough : text.length < steps) :
    Cut place text (scan steps place text) := by
  induction steps generalizing place text with
  | zero => exact absurd enough (Nat.not_lt_zero _)
  | succ steps ih =>
      cases text with
      | nil => exact .nothing place
      | cons c rest =>
          rw [List.length_cons, Nat.add_lt_add_iff_right] at enough
          unfold scan
          split
          · rename_i blank
            exact .space blank (ih enough)
          rename_i no_space
          split
          · rename_i dashes
            obtain ⟨rfl, second⟩ := dashes
            obtain ⟨text, rfl⟩ := List.head?_eq_some_iff.mp second
            have shorter := (List.dropWhile_sublist (· ≠ '\n') (l := text)).length_le
            rw [List.length_cons] at enough
            exact .lineComment (ih (by omega))
          rename_i no_dashes
          split
          · rename_i opens
            obtain ⟨rfl, second⟩ := opens
            obtain ⟨text, rfl⟩ := List.head?_eq_some_iff.mp second
            rw [List.drop_one, List.tail_cons]
            cases closes : blockComment? text with
            | none => exact .openComment closes
            | some found =>
                obtain ⟨body, after⟩ := found
                rw [blockComment?_eq_some closes] at enough
                simp only [List.length_cons, List.length_append] at enough
                exact .blockComment closes (ih (by omega))
          rename_i no_opening
          have starts : StartsToken c rest :=
            ⟨Bool.not_eq_true _ ▸ no_space, no_dashes, no_opening⟩
          cases found : scanTerminal c rest place with
          | error fault => exact .refused starts found
          | ok scanned =>
              have shorter := (scanTerminal_splits found).length_lt
              rw [List.length_cons] at shorter
              have enough : scanned.rest.length < steps := by omega
              have behind := @ih scanned.rest (place.after scanned.lexeme) enough
              convert Cut.token starts found behind using 1
              dsimp only
              cases scan steps (place.after scanned.lexeme) scanned.rest <;> rfl

/-- There is only one way to cut a text, which is that of scanning. -/
theorem Cut.scan_eq (cut : Cut place text outcome) {steps : Nat} (enough : text.length < steps) :
    scan steps place text = outcome := by
  induction cut generalizing steps with
  | nothing place => cases steps <;> rfl
  | space blank behind ih =>
      obtain ⟨steps, rfl⟩ := Nat.exists_eq_add_one.mpr (Nat.zero_lt_of_lt enough)
      rw [scan, if_pos blank]
      exact ih (Nat.lt_of_succ_lt_succ enough)
  | @lineComment place text outcome behind ih =>
      obtain ⟨steps, rfl⟩ := Nat.exists_eq_add_one.mpr (Nat.zero_lt_of_lt enough)
      have shorter := (List.dropWhile_sublist (· ≠ '\n') (l := text)).length_le
      simp only [List.length_cons] at enough
      rw [scan, if_neg (by decide), if_pos ⟨rfl, rfl⟩]
      exact ih (by omega)
  | blockComment closes behind ih =>
      obtain ⟨steps, rfl⟩ := Nat.exists_eq_add_one.mpr (Nat.zero_lt_of_lt enough)
      rw [blockComment?_eq_some closes] at enough
      simp only [List.length_cons, List.length_append] at enough
      rw [scan, if_neg (by decide), if_neg (by simp), if_pos ⟨rfl, rfl⟩, List.drop_one,
        List.tail_cons, closes]
      exact ih (by omega)
  | openComment never =>
      obtain ⟨steps, rfl⟩ := Nat.exists_eq_add_one.mpr (Nat.zero_lt_of_lt enough)
      rw [scan, if_neg (by decide), if_neg (by simp), if_pos ⟨rfl, rfl⟩, List.drop_one,
        List.tail_cons, never]
  | refused starts refuses =>
      obtain ⟨steps, rfl⟩ := Nat.exists_eq_add_one.mpr (Nat.zero_lt_of_lt enough)
      rw [scan, if_neg (by simp [starts.no_space]), if_neg starts.no_lineComment,
        if_neg starts.no_blockComment, refuses]
  | @token place c rest scanned outcome starts found behind ih =>
      obtain ⟨steps, rfl⟩ := Nat.exists_eq_add_one.mpr (Nat.zero_lt_of_lt enough)
      have shorter := (scanTerminal_splits found).length_lt
      have enough : scanned.rest.length < steps := by omega
      have following := ih enough
      rw [scan, if_neg (by simp [starts.no_space]), if_neg starts.no_lineComment,
        if_neg starts.no_blockComment, found]
      dsimp only
      rw [following]
      cases outcome <;> rfl

/-- The tokens of a text are those that cutting it gives. -/
theorem ofText_eq_iff {text : String} : ofText text = outcome ↔
    Cut Place.start text.toList outcome :=
  ⟨fun cuts => cuts ▸ cut_scan (Nat.lt_succ_self _), fun cut => cut.scan_eq (Nat.lt_succ_self _)⟩

end Token

end Relational
