import Mathlib.Data.List.DropRight
import Relational.Proofs.Token.Respacing

/-!
# Lines joined by blanks

Of a text in lines, each line is taken without the white space at its ends, and the
lines are joined by blanks.  If no line but the last one ends inside of a quotation,
or of a comment that ends with its line, the text so made is cut into the tokens of
the first one.
-/

namespace Relational

namespace Unicode

variable {c : Char} {text : List Char}

/-- A text is its trimmed one between blanks. -/
theorem trimmed_split (text : List Char) : ∃ lead trail, Token.Blank lead ∧ Token.Blank trail ∧
    text = lead ++ (trimmed text ++ trail) := by
  refine ⟨text.takeWhile isSpace, (text.dropWhile isSpace).rtakeWhile isSpace,
    fun c => List.mem_takeWhile_imp, fun c => List.mem_rtakeWhile_imp, ?_⟩
  change text = _ ++ ((text.dropWhile isSpace).rdropWhile isSpace ++ _)
  rw [List.rdropWhile_append_rtakeWhile, List.takeWhile_append_dropWhile]

theorem isSpace_of_head_trimmed (first : (trimmed text).head? = some c) : isSpace c = false := by
  obtain ⟨behind, split⟩ := List.rdropWhile_prefix (p := isSpace) (l := text.dropWhile isSpace)
  have kept := List.head?_dropWhile_not isSpace text
  rwa [← split, List.head?_append, show List.rdropWhile _ _ = trimmed text from rfl, first] at kept

/-- White space behind a text is trimmed away, and what has none at its ends stays. -/
theorem trimmed_append_blank (starts : ∀ c, text.head? = some c → isSpace c = false)
    (stops : ∀ c, text.getLast? = some c → isSpace c = false) :
    trimmed (text ++ [' ']) = text := by
  cases text with
  | nil => rfl
  | cons c rest =>
      have first := starts c rfl
      change ((c :: (rest ++ [' '])).dropWhile isSpace).rdropWhile isSpace = c :: rest
      rw [List.dropWhile_cons_of_neg (by simp [first]), ← List.cons_append,
        List.rdropWhile_concat_pos isSpace _ _ rfl, List.rdropWhile_eq_self_iff]
      intro nonempty
      rw [stops _ (List.getLast?_eq_some_getLast nonempty)]
      exact Bool.false_ne_true

end Unicode

namespace Token

/-- A break may stand behind each of some lines. -/
def Context.breaksApart : Context → List (List Char) → Bool
  | _, [] => true
  | context, first :: rest =>
    (context.along first).mayBreak && breaksApart (context.along first) rest

/-- How much white space a line has at its ends. -/
def margin (line : List Char) : Nat :=
  line.length - (Unicode.trimmed line).length

/-- How much white space some lines have at their ends. -/
def margins : List (List Char) → Nat
  | [] => 0
  | line :: rest => margin line + margins rest

variable {context : Context} {earlier : List (List Char)}

/-- A line is as long as its trimmed one and its margin. -/
theorem length_eq_margin (line : List Char) :
    line.length = (Unicode.trimmed line).length + margin line := by
  obtain ⟨lead, trail, -, -, split⟩ := Unicode.trimmed_split line
  have lengths := congrArg List.length split
  simp only [List.length_append] at lengths
  unfold margin
  omega

/-- Lines are longer than the trimmed ones by their margins. -/
theorem length_lines (earlier : List (List Char)) (last : List Char) :
    (earlier.flatMap (· ++ ['\n']) ++ last).length =
    (earlier.flatMap (Unicode.trimmed · ++ [' ']) ++ Unicode.trimmed last).length +
      margins (earlier ++ [last]) := by
  induction earlier with
  | nil => exact length_eq_margin last
  | cons line earlier ih =>
      have first := length_eq_margin line
      simp only [List.flatMap_cons, List.length_append, List.length_singleton, List.cons_append,
        margins] at ih ⊢
      omega

/-- Lines that are trimmed and joined by spaces have other breaks alone, unless one ends
where no break may stand. -/
theorem respaced_lines (apart : context.breaksApart (earlier.map Unicode.trimmed) = true)
    (last : List Char) : ∃ lead core text text', Blank lead ∧
      earlier.flatMap (· ++ ['\n']) ++ last = lead ++ (core ++ text) ∧
      earlier.flatMap (Unicode.trimmed · ++ [' ']) ++ Unicode.trimmed last = core ++ text' ∧
      Respaced (context.along core) text text' := by
  induction earlier generalizing context with
  | nil =>
      obtain ⟨lead, trail, blank, blank', split⟩ := Unicode.trimmed_split last
      exact ⟨lead, Unicode.trimmed last, trail, [], blank, split,
        (List.append_nil _).symm, .ends blank'⟩
  | cons line earlier ih =>
      obtain ⟨may, apart⟩ := Bool.and_eq_true_iff.mp apart
      obtain ⟨lead, core, text, text', blank, joined, gathered, respaced⟩ := ih apart
      obtain ⟨lead', trail, blank', blank'', split⟩ := Unicode.trimmed_split line
      have gap : Blank (trail ++ '\n' :: lead) := by
        intro c member
        rcases List.mem_append.mp member with inside | inside
        · exact blank'' c inside
        · rcases List.mem_cons.mp inside with rfl | inside
          · rfl
          · exact blank c inside
      refine ⟨lead', Unicode.trimmed line, trail ++ '\n' :: lead ++ (core ++ text),
        ' ' :: (core ++ text'), blank', ?_, ?_, .breaks may gap (by simp) respaced⟩
      · rw [List.flatMap_cons, List.append_assoc, joined]
        nth_rewrite 1 [split]
        simp
      · rw [List.flatMap_cons, List.append_assoc, gathered]
        simp

/-- The lines of a text are cut alike when they are trimmed and joined by blanks. -/
theorem cutAlike_lines (apart : Context.plain.breaksApart (earlier.map Unicode.trimmed) = true)
    (last : List Char) :
    CutAlike (margins (earlier ++ [last]))
      Place.start (earlier.flatMap (· ++ ['\n']) ++ last)
      Place.start (earlier.flatMap (Unicode.trimmed · ++ [' ']) ++ Unicode.trimmed last) := by
  have lengths := length_lines earlier last
  obtain ⟨lead, core, text, text', blank, joined, gathered, respaced⟩ := respaced_lines apart last
  rw [joined, gathered] at lengths ⊢
  simp only [List.length_append] at lengths
  have apart : (Place.start.after lead).offset = Place.start.offset + lead.length :=
    Place.after_offset Place.start lead
  have balance : lead.length + text.length = margins (earlier ++ [last]) + text'.length := by
    omega
  obtain ⟨outcome, outcome', cut, cut', displaced⟩ := respaced.cutAlike apart balance
  exact ⟨outcome, outcome', .spaces blank cut, cut', displaced⟩

end Token

end Relational
