import Mathlib.Data.List.Basic
import Mathlib.Data.List.Infix
import Relational.Pattern

/-!
# Texts that patterns denote

Which texts a pattern denotes is said by its characters alone.  Compiling chooses
among five forms of matching, and the general form gives up earlier choices once it
has reached another `%`; neither changes which texts are accepted.

Earlier choices may be given up because the elements in front of a `%` ask for a
fixed number of characters.  Where they match as far to the front as possible, the
text that is left to the `%` ends with every text that any later match would leave.
-/

namespace Relational

namespace Pattern

/-- The texts that a pattern denotes: `%` stands for any characters or none, `_` for
exactly one, every other character for itself, and nothing is left over. -/
inductive Denotes : List Char → List Char → Prop
  | nothing : Denotes [] []
  | anyText (skipped : List Char) {pattern text : List Char} (behind : Denotes pattern text) :
      Denotes ('%' :: pattern) (skipped ++ text)
  | anyCharacter (c : Char) {pattern text : List Char} (behind : Denotes pattern text) :
      Denotes ('_' :: pattern) (c :: text)
  | itself {c : Char} {pattern text : List Char} (ordinary : c ≠ '%' ∧ c ≠ '_')
      (behind : Denotes pattern text) : Denotes (c :: pattern) (c :: text)

variable {pattern part text behind : List Char} {c d : Char} {elements : List Element}

/-- The empty pattern denotes the empty text alone. -/
theorem denotes_nil_iff : Denotes [] text ↔ text = [] := by
  constructor
  · intro denotes
    cases denotes
    rfl
  · rintro rfl
    exact .nothing

/-- A percent sign stands for any text in front of what the rest denotes. -/
theorem denotes_percent_iff :
    Denotes ('%' :: pattern) text ↔ ∃ left, left <:+ text ∧ Denotes pattern left := by
  constructor
  · intro denotes
    cases denotes with
    | anyText skipped behind => exact ⟨_, List.suffix_append skipped _, behind⟩
    | itself ordinary _ => exact absurd rfl ordinary.1
  · rintro ⟨left, ⟨skipped, rfl⟩, behind⟩
    exact .anyText skipped behind

/-- An underscore stands for one character in front of what the rest denotes. -/
theorem denotes_underscore_iff :
    Denotes ('_' :: pattern) text ↔ ∃ c left, text = c :: left ∧ Denotes pattern left := by
  constructor
  · intro denotes
    cases denotes with
    | anyCharacter c behind => exact ⟨c, _, rfl, behind⟩
    | itself ordinary _ => exact absurd rfl ordinary.2
  · rintro ⟨c, left, rfl, behind⟩
    exact .anyCharacter c behind

/-- An ordinary character stands for itself in front of what the rest denotes. -/
theorem denotes_cons_iff (ordinary : c ≠ '%' ∧ c ≠ '_') :
    Denotes (c :: pattern) text ↔ ∃ left, text = c :: left ∧ Denotes pattern left := by
  constructor
  · intro denotes
    cases denotes with
    | anyText _ _ => exact absurd rfl ordinary.1
    | anyCharacter _ _ => exact absurd rfl ordinary.2
    | itself _ behind => exact ⟨_, rfl, behind⟩
  · rintro ⟨left, rfl, behind⟩
    exact .itself ordinary behind

/-- Ordinary text stands for itself in front of what the rest denotes. -/
theorem denotes_append_iff (ordinary : '_' ∉ part ∧ '%' ∉ part) :
    Denotes (part ++ pattern) text ↔ ∃ left, text = part ++ left ∧ Denotes pattern left := by
  induction part generalizing text with
  | nil => simp
  | cons c rest ih =>
      obtain ⟨no_underscore, no_percent⟩ := ordinary
      rw [List.mem_cons, not_or] at no_underscore no_percent
      rw [List.cons_append, denotes_cons_iff ⟨Ne.symm no_percent.1, Ne.symm no_underscore.1⟩]
      constructor
      · rintro ⟨left, rfl, denotes⟩
        obtain ⟨left, rfl, behind⟩ := (ih ⟨no_underscore.2, no_percent.2⟩).mp denotes
        exact ⟨left, rfl, behind⟩
      · rintro ⟨left, rfl, behind⟩
        exact ⟨_, rfl, (ih ⟨no_underscore.2, no_percent.2⟩).mpr ⟨left, rfl, behind⟩⟩

/-! ### The general form -/

/-- The texts that elements stand for. -/
def Covers : List Element → List Char → Prop
  | [], text => text = []
  | .anyText :: elements, text => ∃ left, left <:+ text ∧ Covers elements left
  | .anyCharacter :: elements, text => ∃ c left, text = c :: left ∧ Covers elements left
  | .exactly d :: elements, text => ∃ left, text = d :: left ∧ Covers elements left

/-- The elements of a pattern cover the texts that the pattern denotes. -/
theorem covers_map_ofChar_iff : Covers (pattern.map Element.ofChar) text ↔ Denotes pattern text := by
  induction pattern generalizing text with
  | nil => exact denotes_nil_iff.symm
  | cons c rest ih =>
      rw [List.map_cons, Element.ofChar]
      by_cases percent : c = '%'
      · subst percent
        rw [if_pos rfl, denotes_percent_iff]
        exact exists_congr fun left => and_congr_right fun _ => ih
      · rw [if_neg percent]
        by_cases underscore : c = '_'
        · subst underscore
          rw [if_pos rfl, denotes_underscore_iff]
          exact exists_congr fun c => exists_congr fun left => and_congr_right fun _ => ih
        · rw [if_neg underscore, denotes_cons_iff ⟨percent, underscore⟩]
          exact exists_congr fun left => and_congr_right fun _ => ih

/-- The empty text is covered by percent signs alone. -/
theorem covers_nil_iff : Covers elements [] ↔ elements.all (· = .anyText) = true := by
  induction elements with
  | nil => simp [Covers]
  | cons element rest ih => cases element <;> simp [Covers, ih]

/-- What the progress at the front of a text leaves to be shown of the text. -/
def Progress.Succeeds : Progress → Prop
  | .ended accepted => accepted = true
  | .atAnyText left textLeft => Covers (.anyText :: left) textLeft
  | .stuck => False

/-- Going through the text up to the next percent sign leads to the end exactly if the
elements cover the text. -/
theorem advance_succeeds_iff : (advance text elements).Succeeds ↔ Covers elements text := by
  fun_induction advance text elements with
  | case1 elements => exact covers_nil_iff.symm
  | case2 c rest => simp [Progress.Succeeds, Covers]
  | case3 c rest elements => rfl
  | case4 c rest elements ih => simp [Covers, ih]
  | case5 c rest elements ih => simp [Covers, ih]
  | case6 c rest d elements different =>
      simp [Progress.Succeeds, Covers, different]

/-- What is the end of a longer text by one more character is the end of the text. -/
theorem suffix_of_cons_suffix_cons (suffix : (d :: behind) <:+ (c :: text)) : behind <:+ text := by
  rcases List.suffix_cons_iff.mp suffix with same | shorter
  · cases same
    exact List.suffix_rfl
  · exact (List.suffix_cons d behind).trans shorter

/-- Unless the elements mismatch at the front of a text, no later start in it does
better: what any end of the text achieves, the front achieves. -/
theorem advance_succeeds_of_suffix (suffix : behind <:+ text) (covers : Covers elements behind)
    (goes : advance text elements ≠ .stuck) : (advance text elements).Succeeds := by
  fun_induction advance text elements generalizing behind with
  | case1 elements =>
      rw [List.suffix_nil.mp suffix] at covers
      exact covers_nil_iff.mp covers
  | case2 c rest => exact absurd rfl goes
  | case3 c rest elements =>
      obtain ⟨left, shorter, covers⟩ := covers
      exact ⟨left, shorter.trans suffix, covers⟩
  | case4 c rest elements ih =>
      obtain ⟨d, left, rfl, covers⟩ := covers
      exact ih (suffix_of_cons_suffix_cons suffix) covers goes
  | case5 c rest elements ih =>
      obtain ⟨left, rfl, covers⟩ := covers
      exact ih (suffix_of_cons_suffix_cons suffix) covers goes
  | case6 c rest d elements different => exact absurd rfl goes

/-- The search behind a percent sign finds a place exactly if the elements cover the
text. -/
theorem search_iff : search elements text = true ↔ Covers (.anyText :: elements) text := by
  fun_induction search elements text with
  | case1 elements text accepted reached =>
      constructor
      · intro accepts
        refine ⟨text, List.suffix_rfl, advance_succeeds_iff.mp ?_⟩
        rw [reached]
        exact accepts
      · rintro ⟨left, suffix, covers⟩
        have succeeds := advance_succeeds_of_suffix suffix covers (by simp [reached])
        rwa [reached] at succeeds
  | case2 elements text left textLeft reached ih =>
      rw [ih]
      constructor
      · intro covers
        refine ⟨text, List.suffix_rfl, advance_succeeds_iff.mp ?_⟩
        rw [reached]
        exact covers
      · rintro ⟨left, suffix, covers⟩
        have succeeds := advance_succeeds_of_suffix suffix covers (by simp [reached])
        rwa [reached] at succeeds
  | case3 elements reached => exact Progress.noConfusion reached
  | case4 elements c rest reached ih =>
      have mismatch : ¬ Covers elements (c :: rest) := by
        rw [← advance_succeeds_iff, reached]
        exact id
      rw [ih]
      constructor
      · rintro ⟨left, suffix, covers⟩
        exact ⟨left, suffix.trans (List.suffix_cons c rest), covers⟩
      · rintro ⟨left, suffix, covers⟩
        rcases List.suffix_cons_iff.mp suffix with rfl | shorter
        · exact absurd covers mismatch
        · exact ⟨left, shorter, covers⟩

/-- The greedy search agrees with what the elements cover. -/
theorem matchElements_iff : matchElements elements text = true ↔ Covers elements text := by
  rw [← advance_succeeds_iff, matchElements]
  cases advance text elements with
  | ended accepted => rfl
  | atAnyText left textLeft => exact search_iff
  | stuck => exact iff_of_false Bool.false_ne_true id

/-! ### The forms without a search -/

/-- The search for a part finds it exactly if it occurs. -/
theorem occursIn_iff : occursIn part text = true ↔ part <:+: text := by
  induction text with
  | nil => simp [occursIn]
  | cons c rest ih => simp [occursIn, List.infix_cons_iff, ih]

/-- A pattern of ordinary characters denotes itself alone. -/
theorem denotes_self_iff (ordinary : '_' ∉ pattern ∧ '%' ∉ pattern) :
    Denotes pattern text ↔ text = pattern := by
  have split : Denotes (pattern ++ []) text ↔ ∃ left, text = pattern ++ left ∧ Denotes [] left :=
    denotes_append_iff ordinary
  simpa [denotes_nil_iff] using split

/-- A percent sign behind ordinary text asks for a beginning. -/
theorem denotes_closed_iff (ordinary : '_' ∉ part ∧ '%' ∉ part) :
    Denotes (part ++ ['%']) text ↔ part <+: text := by
  rw [denotes_append_iff ordinary]
  constructor
  · rintro ⟨left, rfl, -⟩
    exact List.prefix_append part left
  · rintro ⟨left, rfl⟩
    exact ⟨left, rfl, denotes_percent_iff.mpr ⟨[], List.nil_suffix, .nothing⟩⟩

/-- A percent sign in front of ordinary text asks for an end. -/
theorem denotes_opened_iff (ordinary : '_' ∉ part ∧ '%' ∉ part) :
    Denotes ('%' :: part) text ↔ part <:+ text := by
  rw [denotes_percent_iff]
  constructor
  · rintro ⟨left, suffix, denotes⟩
    rwa [(denotes_self_iff ordinary).mp denotes] at suffix
  · intro suffix
    exact ⟨part, suffix, (denotes_self_iff ordinary).mpr rfl⟩

/-- Ordinary text between percent signs asks for an occurrence. -/
theorem denotes_enclosed_iff (ordinary : '_' ∉ part ∧ '%' ∉ part) :
    Denotes ('%' :: (part ++ ['%'])) text ↔ part <:+: text := by
  rw [denotes_percent_iff, List.infix_iff_prefix_suffix]
  constructor
  · rintro ⟨left, suffix, denotes⟩
    exact ⟨left, (denotes_closed_iff ordinary).mp denotes, suffix⟩
  · rintro ⟨left, starts, suffix⟩
    exact ⟨left, suffix, (denotes_closed_iff ordinary).mpr starts⟩

/-! ### All forms -/

/-- A pattern of no particular shape matches the texts that it denotes. -/
theorem elementwise_matches_iff :
    (elementwise pattern).matchesFolded text = true ↔ Denotes pattern text :=
  matchElements_iff.trans covers_map_ofChar_iff

/-- Whatever form is chosen for a pattern, it accepts the texts that the pattern
denotes. -/
theorem ofFolded_matches_iff :
    (ofFolded pattern).matchesFolded text = true ↔ Denotes pattern text := by
  unfold ofFolded
  split
  · exact elementwise_matches_iff
  · rename_i no_underscore
    split
    · rename_i no_percent
      rw [denotes_self_iff ⟨no_underscore, no_percent⟩]
      exact beq_iff_eq
    · dsimp only
      simp only [Bool.and_eq_true, Bool.not_eq_true', decide_eq_true_eq, decide_eq_false_iff_not]
      split
      · rename_i form
        obtain ⟨⟨-, closed⟩, no_percent⟩ := form
        obtain ⟨part, rfl⟩ := List.getLast?_eq_some_iff.mp closed
        rw [List.dropLast_concat] at no_percent ⊢
        rw [denotes_closed_iff ⟨fun member => no_underscore (List.mem_append_left _ member),
          no_percent⟩]
        exact List.isPrefixOf_iff_prefix
      split
      · rename_i form
        obtain ⟨⟨opened, -⟩, no_percent⟩ := form
        obtain ⟨part, rfl⟩ := List.head?_eq_some_iff.mp opened
        rw [denotes_opened_iff ⟨fun member => no_underscore (List.mem_cons_of_mem _ member),
          no_percent⟩]
        exact List.isSuffixOf_iff_suffix
      split
      · rename_i form
        obtain ⟨⟨⟨opened, closed⟩, wide⟩, no_percent⟩ := form
        obtain ⟨rest, rfl⟩ := List.head?_eq_some_iff.mp opened
        have inside : rest ≠ [] := by
          rintro rfl
          exact absurd wide (by decide)
        rw [List.getLast?_cons_of_ne_nil inside] at closed
        obtain ⟨part, rfl⟩ := List.getLast?_eq_some_iff.mp closed
        rw [List.tail_cons, List.dropLast_concat] at no_percent ⊢
        rw [denotes_enclosed_iff ⟨fun member => no_underscore
          (List.mem_cons_of_mem _ (List.mem_append_left _ member)), no_percent⟩]
        exact occursIn_iff
      · exact elementwise_matches_iff

/-- A pattern accepts a text exactly if it denotes the text, ASCII letters in either
case being the same. -/
theorem accepts_compile_iff (pattern text : String) :
    (compile pattern).accepts text = true ↔ Denotes (fold pattern) (fold text) :=
  ofFolded_matches_iff

end Pattern

end Relational
