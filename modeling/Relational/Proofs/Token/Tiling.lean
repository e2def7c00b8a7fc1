import Mathlib.Data.List.Induction
import Relational.Proofs.Fallible
import Relational.Proofs.Token.Separation

/-!
# Tokens tile their text

Every character of a text that is cut into tokens belongs to just one token or to
what separates tokens: white space, comments to the end of a line and closed
comments.  A token says where it stands.  Its lexeme is the part of the text that
starts at its offset, and its line and column are those of that offset.

The scanner goes through a text and keeps its place by counting along.  What it
yields is first described as it goes, a gap and a token at a time, and from that
in terms of the whole text.
-/

namespace Relational

namespace Place

/-- The place of the character with a number of characters in front of it.  Its line
is one more than the line feeds in front of it, and its column one more than the
characters behind the last of these. -/
def ofOffset (text : List Char) (offset : Nat) : Place :=
  ⟨offset, (text.take offset).count '\n' + 1,
    ((text.take offset).reverse.takeWhile (· ≠ '\n')).length + 1⟩

theorem after_append (place : Place) (front text : List Char) :
    place.after (front ++ text) = (place.after front).after text :=
  List.foldl_append

/-- Counting along a text leads to the place of what follows. -/
theorem start_after (front rest : List Char) :
    start.after front = ofOffset (front ++ rest) front.length := by
  unfold ofOffset
  rw [List.take_left]
  induction front using List.reverseRecOn with
  | nil => rfl
  | append_singleton front c ih =>
      rw [after_append, ih]
      change next _ c = _
      by_cases feed : c = '\n'
      · simp [next, feed]
      · simp [next, feed]

end Place

namespace Token

variable {c : Char} {text rest gap front : List Char} {place : Place} {scanned : Scanned}
  {tokens : List Token}

/-! ### What separates tokens -/

/-- White space, comments to the end of a line and closed comments, one behind the
other in front of the rest of a text.  A comment to the end of a line goes up to a
line feed or up to the end of the text, and a closed comment up to the first sign
of its end. -/
inductive Skipped : List Char → List Char → Prop
  | nothing {rest : List Char} : Skipped [] rest
  | space {c : Char} {gap rest : List Char} (blank : Unicode.isSpace c = true)
      (behind : Skipped gap rest) : Skipped (c :: gap) rest
  | lineComment {body gap rest : List Char} (one_line : '\n' ∉ body)
      (ends : ∀ c, (gap ++ rest).head? = some c → c = '\n') (behind : Skipped gap rest) :
      Skipped ('-' :: '-' :: body ++ gap) rest
  | blockComment {body gap rest : List Char} (first_end : ¬ ['*', '/'] <:+: body ++ ['*'])
      (behind : Skipped gap rest) : Skipped ('/' :: '*' :: body ++ '*' :: '/' :: gap) rest

/-- A comment ends at the first sign of its end. -/
theorem blockComment?_first_end {body : List Char} (closes : blockComment? text = some (body, rest)) :
    ∃ inner, body = inner ++ ['*', '/'] ∧ ¬ ['*', '/'] <:+: inner ++ ['*'] := by
  fun_induction blockComment? text generalizing body with
  | case1 => cases closes
  | case2 rest' =>
      cases closes
      exact ⟨[], rfl, by decide⟩
  | case3 c rest' unclosed ih =>
      obtain ⟨⟨later, after⟩, closes, result⟩ := Option.map_eq_some_iff.mp closes
      cases result
      obtain ⟨inner, rfl, first⟩ := ih closes
      refine ⟨c :: inner, rfl, fun occurs => ?_⟩
      rw [List.cons_append, List.infix_cons_iff] at occurs
      refine occurs.elim (fun here => ?_) first
      -- An end right here would have been seen before the characters behind it are read.
      obtain ⟨star, slash⟩ := List.cons_prefix_cons.mp here
      cases inner with
      | nil => exact absurd slash (by decide)
      | cons d inner =>
          obtain ⟨rfl, -⟩ := List.cons_prefix_cons.mp slash
          exact unclosed _ star.symm (blockComment?_eq_some closes)

/-! ### Along the text -/

/-- The tokens that are met along a text from a place on: a gap and a token behind it,
again and again, and a gap up to the end. -/
inductive Laid : Place → List Char → List Token → Prop
  | ending {place : Place} {gap : List Char} (skipped : Skipped gap []) :
      Laid place gap [⟨.endOfInput, "", place.after gap⟩]
  | token {place : Place} {gap lexeme rest : List Char} {terminal : Terminal}
      {tokens : List Token} (skipped : Skipped gap (lexeme ++ rest)) (nonempty : lexeme ≠ [])
      (proper : terminal ≠ .endOfInput)
      (behind : Laid (place.after (gap ++ lexeme)) rest tokens) :
      Laid place (gap ++ (lexeme ++ rest))
        (⟨terminal, String.ofList lexeme, place.after gap⟩ :: tokens)

/-- More to skip in front of a text. -/
theorem Laid.prepend (front : List Char) (laid : Laid (place.after front) text tokens)
    (skips : ∀ gap rest, gap ++ rest = text → Skipped gap rest → Skipped (front ++ gap) rest) :
    Laid place (front ++ text) tokens := by
  cases laid with
  | ending skipped =>
      rw [← Place.after_append]
      exact .ending (skips _ _ (List.append_nil _) skipped)
  | token skipped nonempty proper behind =>
      rw [← Place.after_append, ← List.append_assoc] at behind
      rw [← Place.after_append, ← List.append_assoc]
      exact .token (skips _ _ rfl skipped) nonempty proper behind

/-- The end of the input is not scanned. -/
theorem scanTerminal_proper (found : scanTerminal c rest place = .ok scanned) :
    scanned.terminal ≠ .endOfInput := by
  unfold scanTerminal at found
  split at found
  · split at found <;> cases found
    exact nofun
  split at found
  · split at found <;> cases found
    exact nofun
  split at found
  · unfold scanNumber at found
    dsimp only at found
    split at found <;> split at found <;> cases found <;> exact nofun
  split at found
  · cases found
    unfold scanWord
    dsimp only
    split <;> exact nofun
  split at found <;> cases found
  rename_i found
  unfold scanSymbol? at found
  split at found <;> cases found <;> exact nofun

/-- Cutting a text goes along it. -/
theorem Cut.laid {outcome : Except SyntaxFault (List Token)} (cut : Cut place text outcome)
    (done : outcome = .ok tokens) : Laid place text tokens := by
  induction cut generalizing tokens with
  | nothing place =>
      cases done
      exact .ending .nothing
  | @space place c rest outcome blank behind ih =>
      exact (ih done).prepend [c] fun gap rest _ skipped => .space blank skipped
  | @lineComment place text outcome behind ih =>
      have along := ih done
      rw [← List.takeWhile_append_dropWhile (p := (· ≠ '\n')) (l := text)]
      refine along.prepend _ fun gap rest whole skipped => .lineComment ?_ ?_ skipped
      · intro feed
        have other := List.mem_takeWhile_imp feed
        exact of_decide_eq_true other rfl
      · intro c first
        have stops := List.head?_dropWhile_not (· ≠ '\n') text
        rw [← whole, first] at stops
        exact not_not.mp (of_decide_eq_false stops)
  | @blockComment place text body rest outcome closes behind ih =>
      obtain ⟨inner, rfl, first_end⟩ := blockComment?_first_end closes
      rw [blockComment?_eq_some closes]
      refine (ih done).prepend _ fun gap rest _ skipped => ?_
      have comment := Skipped.blockComment first_end skipped
      simpa using comment
  | openComment never => cases done
  | refused starts refuses => cases done
  | @token place c rest scanned outcome starts found behind ih =>
      obtain ⟨others, rfl, rfl⟩ := map_eq_ok.mp done
      obtain ⟨whole, nonempty⟩ := scanTerminal_splits found
      rw [← whole]
      exact .token .nothing nonempty (scanTerminal_proper found) (ih rfl)

/-! ### Over the whole text -/

/-- The offset behind a token. -/
def finish (token : Token) : Nat :=
  token.place.offset + token.lexeme.length

/-- The offset behind the last of some tokens, which is that of their beginning if
there are none. -/
def finishOf (first : Nat) (tokens : List Token) : Nat :=
  (tokens.getLast?.map finish).getD first

/-- Tokens tile a text from an offset on.  They end with the end of the input, which is
nowhere else; each occurs where it says; they follow each other; and what stands
between them, in front of them and behind them is skipped. -/
structure Tiles (text : List Char) (first : Nat) (tokens : List Token) : Prop where
  ends : ∃ others, tokens = others ++ [⟨.endOfInput, "", Place.ofOffset text text.length⟩] ∧
    ∀ token ∈ others, token.terminal ≠ .endOfInput ∧ token.lexeme ≠ ""
  occurs : ∀ token ∈ tokens, token.lexeme.toList <+: text.drop token.place.offset
  placed : ∀ token ∈ tokens, token.place = Place.ofOffset text token.place.offset
  behind : ∀ token ∈ tokens, first ≤ token.place.offset
  apart : tokens.Pairwise fun token later =>
    token.place.offset < later.place.offset ∧ token.finish ≤ later.place.offset
  between : ∀ earlier token later, tokens = earlier ++ token :: later →
    Skipped ((text.take token.place.offset).drop (finishOf first earlier))
      (text.drop token.place.offset)

/-- Tokens finish where those behind the first one do. -/
theorem finishOf_cons (first : Nat) (token : Token) (tokens : List Token) :
    finishOf first (token :: tokens) = finishOf token.finish tokens := by
  unfold finishOf
  rw [List.getLast?_cons]
  cases tokens.getLast? <;> rfl

/-- Only the end of the input is left to come. -/
theorem Tiles.ending (skipped : Skipped gap []) :
    Tiles (front ++ gap) front.length
      [⟨.endOfInput, "", Place.ofOffset (front ++ gap) (front ++ gap).length⟩] := by
  constructor
  · exact ⟨[], rfl, nofun⟩
  · rw [List.forall_mem_singleton]
    exact List.nil_prefix
  · rw [List.forall_mem_singleton]
    rfl
  · rw [List.forall_mem_singleton]
    exact (List.prefix_append front gap).length_le
  · exact List.pairwise_singleton _ _
  · intro earlier token later same
    obtain ⟨rfl, same⟩ | ⟨others, -, same⟩ := List.cons_eq_append_iff.mp same
    · cases same
      change Skipped (((front ++ gap).take (front ++ gap).length).drop front.length)
        ((front ++ gap).drop (front ++ gap).length)
      rw [List.take_length, List.drop_length, List.drop_left]
      exact skipped
    · exact absurd same.symm (List.append_ne_nil_of_right_ne_nil _ (List.cons_ne_nil _ _))

/-- A token in front of others, behind a gap. -/
theorem Tiles.cons {lexeme : List Char} {terminal : Terminal}
    (skipped : Skipped gap (lexeme ++ rest)) (nonempty : lexeme ≠ [])
    (proper : terminal ≠ .endOfInput)
    (tiles : Tiles (front ++ (gap ++ (lexeme ++ rest))) (front ++ (gap ++ lexeme)).length tokens) :
    Tiles (front ++ (gap ++ (lexeme ++ rest))) front.length
      (⟨terminal, String.ofList lexeme,
        Place.ofOffset (front ++ (gap ++ (lexeme ++ rest))) (front ++ gap).length⟩ :: tokens) := by
  have starts : (front ++ (gap ++ (lexeme ++ rest))).drop (front ++ gap).length = lexeme ++ rest := by
    rw [← List.append_assoc, List.drop_left]
  have ending : (front ++ gap).length + lexeme.length = (front ++ (gap ++ lexeme)).length := by
    simp only [List.length_append]
    omega
  have longer := List.length_pos_iff.mpr nonempty
  constructor
  · obtain ⟨others, rfl, each⟩ := tiles.ends
    refine ⟨_ :: others, rfl, List.forall_mem_cons.mpr ⟨⟨proper, ?_⟩, each⟩⟩
    exact fun empty => nonempty (by simpa using congrArg String.toList empty)
  · refine List.forall_mem_cons.mpr ⟨?_, tiles.occurs⟩
    change (String.ofList lexeme).toList <+: List.drop (front ++ gap).length _
    rw [String.toList_ofList, starts]
    exact List.prefix_append lexeme rest
  · exact List.forall_mem_cons.mpr ⟨rfl, tiles.placed⟩
  · refine List.forall_mem_cons.mpr ⟨(List.prefix_append front gap).length_le, ?_⟩
    intro token member
    have later := tiles.behind token member
    rw [List.length_append] at later
    exact (Nat.le_add_right _ _).trans later
  · refine List.pairwise_cons.mpr ⟨fun later member => ?_, tiles.apart⟩
    have behind := tiles.behind later member
    rw [← ending] at behind
    refine ⟨Nat.lt_of_lt_of_le ?_ behind, ?_⟩
    · exact Nat.lt_add_of_pos_right longer
    · change (front ++ gap).length + (String.ofList lexeme).length ≤ _
      rwa [String.length_ofList]
  · intro earlier token later same
    obtain ⟨rfl, same⟩ | ⟨others, rfl, tail_same⟩ := List.cons_eq_append_iff.mp same
    · cases same
      change Skipped ((List.take (front ++ gap).length _).drop front.length)
        (List.drop (front ++ gap).length _)
      rw [starts, ← List.append_assoc front, List.take_left, List.drop_left]
      exact skipped
    · have skips := tiles.between others token later tail_same
      rw [finishOf_cons, finish]
      change Skipped (List.drop (finishOf ((front ++ gap).length + (String.ofList lexeme).length)
        others) _) _
      rwa [String.length_ofList, ending]

/-- What is met along a text tiles it. -/
theorem Laid.tiles (laid : Laid place text tokens) (front : List Char)
    (reached : place = Place.start.after front) : Tiles (front ++ text) front.length tokens := by
  induction laid generalizing front with
  | @ending place gap skipped =>
      rw [reached, ← Place.after_append, Place.start_after (front ++ gap) [], List.append_nil]
      exact .ending skipped
  | @token place gap lexeme rest terminal tokens skipped nonempty proper behind ih =>
      have tiles := ih (front ++ (gap ++ lexeme)) (by rw [reached, ← Place.after_append])
      rw [List.append_assoc, List.append_assoc] at tiles
      rw [reached, ← Place.after_append, Place.start_after (front ++ gap) (lexeme ++ rest),
        List.append_assoc]
      exact .cons skipped nonempty proper tiles

/-- The tokens of a text tile it. -/
theorem ofText_tiles {text : String} (cuts : ofText text = .ok tokens) :
    Tiles text.toList 0 tokens :=
  ((ofText_eq_iff.mp cuts).laid rfl).tiles [] rfl

/-- A text with every kind of gap and with a line feed inside of a token. -/
theorem ofText_tiles_lines :
    let text := "-- a\n/**/x='\n''' --"
    let tokens : List Token := [⟨.name "x", "x", ⟨9, 2, 5⟩⟩, ⟨.symbol .equal, "=", ⟨10, 2, 6⟩⟩,
      ⟨.text "\n'", "'\n'''", ⟨11, 2, 7⟩⟩, ⟨.endOfInput, "", ⟨19, 3, 7⟩⟩]
    ofText text = .ok tokens ∧ Tiles text.toList 0 tokens := by
  have cuts : ofText "-- a\n/**/x='\n''' --" = .ok [⟨.name "x", "x", ⟨9, 2, 5⟩⟩,
      ⟨.symbol .equal, "=", ⟨10, 2, 6⟩⟩, ⟨.text "\n'", "'\n'''", ⟨11, 2, 7⟩⟩,
      ⟨.endOfInput, "", ⟨19, 3, 7⟩⟩] := by
    decide +kernel
  exact ⟨cuts, ofText_tiles cuts⟩

end Token

end Relational
