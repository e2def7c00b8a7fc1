import Relational.Proofs.Fallible
import Relational.Proofs.Token.Scanning

/-!
# Texts as literals

The literal of a text may hold any characters.  Wherever it stands on lines of its
own, between texts that are cut into tokens, it is one token, it denotes the text,
and it leaves the other tokens alone.

A new line closes whatever a text ends with: the last terminal, as every space does,
and a comment that runs to the end of the text.
-/

namespace Relational

namespace Token

variable {c : Char} {text rest : List Char} {place : Place} {terminals : List Terminal}

/-! ### Text behind text -/

/-- A text that is cut into tokens spells their terminals also in front of a further
line, and the end of the input is only the last of them. -/
theorem Cut.spells_append {outcome : Except SyntaxFault (List Token)}
    (cut : Cut place text outcome) {tokens : List Token} (done : outcome = .ok tokens) :
    ∃ front, tokens.map Token.terminal = front ++ [.endOfInput] ∧
      ∀ more terminals, (∀ c, more.head? = some c → c = '\n') → Spells more terminals →
        Spells (text ++ more) (front ++ terminals) := by
  induction cut generalizing tokens with
  | nothing place =>
      cases done
      exact ⟨[], rfl, fun more terminals _ spells => spells⟩
  | space blank behind ih =>
      obtain ⟨front, named, joins⟩ := ih done
      exact ⟨front, named, fun more terminals line spells =>
        .space blank (joins more terminals line spells)⟩
  | @lineComment place text outcome behind ih =>
      obtain ⟨front, named, joins⟩ := ih done
      refine ⟨front, named, fun more terminals line spells => ?_⟩
      change Spells ('-' :: '-' :: (text ++ more)) (front ++ terminals)
      refine .lineComment ?_
      rw [(takeWhile_append_of_stops (fun c first => by simp [line c first]) text).2]
      exact joins more terminals line spells
  | blockComment closes behind ih =>
      obtain ⟨front, named, joins⟩ := ih done
      exact ⟨front, named, fun more terminals line spells =>
        .blockComment (blockComment?_append closes) (joins more terminals line spells)⟩
  | openComment never => cases done
  | refused starts refuses => cases done
  | @token place c rest scanned outcome starts found behind ih =>
      obtain ⟨others, rfl, rfl⟩ := map_eq_ok.mp done
      obtain ⟨front, named, joins⟩ := ih rfl
      refine ⟨scanned.terminal :: front, congrArg (_ :: ·) named,
        fun more terminals line spells => ?_⟩
      have separate : separates more := by
        cases more with
        | nil => rfl
        | cons d behind => rw [line d rfl]; rfl
      have found' : scanTerminal c (rest ++ more) place = .ok (scanned.before more) := by
        rw [scanTerminal_append separate (not_leavesOpen found) place, found]
        rfl
      have spelled := Spells.token (starts.append separate) found' (joins more terminals line spells)
      exact spelled

/-! ### Literals -/

/-- A text whose quotes are doubled is read back up to the single quote behind it. -/
theorem quotedText?_doubleQuotes {value : List Char} (single : rest.head? ≠ some '\'') :
    quotedText? (Value.doubleQuotes value ++ '\'' :: rest) =
      some (value, Value.doubleQuotes value ++ ['\''], rest) := by
  induction value with
  | nil =>
      have closes := quotedText?.eq_3 '\'' rest fun behind _ more =>
        single (more ▸ List.head?_cons)
      exact closes.trans (if_pos rfl)
  | cons c value ih =>
      by_cases quote : c = '\''
      · subst quote
        simp [Value.doubleQuotes, quotedText?, ih]
      · rw [Value.doubleQuotes, if_neg quote, List.cons_append,
          quotedText?.eq_3 _ _ fun _ same => absurd same quote, if_neg quote, ih]
        rfl

/-- The literal of a text spells this text, in front of anything but a quote. -/
theorem Spells.literal {s : String} (single : rest.head? ≠ some '\'')
    (spells : Spells rest terminals) :
    Spells (Value.textLiteral s ++ rest) (.text s :: terminals) := by
  have found : scanTerminal '\'' (Value.doubleQuotes s.toList ++ '\'' :: rest) Place.start =
      .ok ⟨.text s, Value.textLiteral s, rest⟩ := by
    rw [scanTerminal, if_pos rfl, quotedText?_doubleQuotes single]
    simp [Value.textLiteral]
  have starts : StartsToken '\'' (Value.doubleQuotes s.toList ++ '\'' :: rest) :=
    ⟨by decide, fun dashes => absurd dashes.1 (by decide), fun opens => absurd opens.1 (by decide)⟩
  have whole : Value.textLiteral s ++ rest =
      '\'' :: (Value.doubleQuotes s.toList ++ '\'' :: rest) := by
    simp [Value.textLiteral]
  rw [whole]
  exact .token starts found spells

/-- A literal on lines of its own is one token that denotes its text, whatever the
text is, and the tokens in front of it and behind it are those of the texts that
stand there.  Only the end of the input in front of it goes. -/
theorem ofText_around_literal (s before after : String) {front behind : List Token}
    (cuts_before : ofText before = .ok front) (cuts_after : ofText after = .ok behind) :
    ∃ terminals, front.map Token.terminal = terminals ++ [.endOfInput] ∧
      ∃ tokens, ofText (before ++ "\n" ++ (Value.text s).sqlLiteral ++ "\n" ++ after) = .ok tokens ∧
        tokens.map Token.terminal = terminals ++ .text s :: behind.map Token.terminal := by
  obtain ⟨terminals, named, joins⟩ := (ofText_eq_iff.mp cuts_before).spells_append rfl
  obtain ⟨others, named', joins'⟩ := (ofText_eq_iff.mp cuts_after).spells_append rfl
  have last := joins' [] [.endOfInput] (by simp) .nil
  rw [List.append_nil, ← named'] at last
  refine ⟨terminals, named, exists_ofText ?_⟩
  have apart : (before ++ "\n" ++ (Value.text s).sqlLiteral ++ "\n" ++ after).toList =
      before.toList ++ '\n' :: (Value.textLiteral s ++ '\n' :: after.toList) := by
    simp [Value.sqlLiteral]
  rw [apart]
  exact joins _ _ (fun c first => (Option.some.inj first).symm)
    (.space rfl (.literal (by simp) (.space rfl last)))

/-- A text that looks like the end of its literal and a further statement, with a
comment in front of it that would hide it on the same line. -/
theorem ofText_around_literal_quote :
    ∃ front behind terminals tokens, ofText "SELECT -- '" = .ok front ∧ ofText ";" = .ok behind ∧
      front.map Token.terminal = terminals ++ [.endOfInput] ∧
      ofText ("SELECT -- '" ++ "\n" ++ (Value.text "'; DROP TABLE t; --\\").sqlLiteral ++ "\n" ++
        ";") = .ok tokens ∧
      tokens.map Token.terminal =
        terminals ++ .text "'; DROP TABLE t; --\\" :: behind.map Token.terminal := by
  obtain ⟨front, cuts_before⟩ : ∃ front, ofText "SELECT -- '" = .ok front := ⟨_, rfl⟩
  obtain ⟨behind, cuts_after⟩ : ∃ behind, ofText ";" = .ok behind := ⟨_, rfl⟩
  obtain ⟨terminals, named, tokens, cuts, spelled⟩ :=
    ofText_around_literal "'; DROP TABLE t; --\\" _ _ cuts_before cuts_after
  exact ⟨front, behind, terminals, tokens, cuts_before, cuts_after, named, cuts, spelled⟩

end Token

end Relational
