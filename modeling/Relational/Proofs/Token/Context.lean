import Relational.Proofs.Token.Separation

/-!
# Quotations and comments

Reading a text from its front, one can say of each place whether it is inside a
quotation or a comment by looking at quotation marks and at the signs of comments
alone.  The scanner agrees: it takes a terminal or a comment as a whole, and behind
it stands outside of both again.
-/

namespace Relational

namespace Token

/-- What a place in a text is inside of. -/
inductive Context where
  | plain
  | text
  | name
  | line
  | block
deriving DecidableEq

namespace Context

/-- The context behind one character, if it is no sign of a comment. -/
def next : Context → Char → Context
  | .plain, '\'' => .text
  | .plain, '"' => .name
  | .text, '\'' => .plain
  | .name, '"' => .plain
  | .line, '\n' => .plain
  | context, _ => context

/-- The context behind a text. -/
def along : Context → List Char → Context
  | context, [] => context
  | .plain, '-' :: '-' :: rest => along .line rest
  | .plain, '/' :: '*' :: rest => along .block rest
  | .block, '*' :: '/' :: rest => along .plain rest
  | context, c :: rest => along (context.next c) rest

/-- A break in this context may be any white space. -/
def mayBreak : Context → Bool
  | .plain => true
  | .block => true
  | _ => false

variable {c : Char} {text rest body value name : List Char} {place : Place} {scanned : Scanned}

/-! ### One character -/

theorem along_text_cons : along .text (c :: rest) = along (next .text c) rest :=
  along.eq_5 _ _ _ (fun _ => nofun) (fun _ => nofun) (fun _ => nofun)

theorem along_name_cons : along .name (c :: rest) = along (next .name c) rest :=
  along.eq_5 _ _ _ (fun _ => nofun) (fun _ => nofun) (fun _ => nofun)

theorem along_line_cons : along .line (c :: rest) = along (next .line c) rest :=
  along.eq_5 _ _ _ (fun _ => nofun) (fun _ => nofun) (fun _ => nofun)

/-- Outside of quotations, one character after the other is gone along where no comment
starts. -/
theorem along_plain_cons (no_line : ¬ (c = '-' ∧ rest.head? = some '-'))
    (no_block : ¬ (c = '/' ∧ rest.head? = some '*')) :
    along .plain (c :: rest) = along (next .plain c) rest := by
  refine along.eq_5 _ _ _ ?_ ?_ (fun _ => nofun)
  · rintro behind - rfl rfl
    exact no_line ⟨rfl, rfl⟩
  · rintro behind - rfl rfl
    exact no_block ⟨rfl, rfl⟩

theorem along_block_cons (no_end : ∀ behind, c = '*' → rest = '/' :: behind → False) :
    along .block (c :: rest) = along .block rest :=
  along.eq_5 .block c rest (fun _ => nofun) (fun _ => nofun) fun behind _ => no_end behind

/-- The characters that a context depends on. -/
def signs : List Char :=
  ['\'', '"', '-', '/']

theorem next_plain_of_not_mem (no_sign : c ∉ signs) : next .plain c = .plain := by
  simp only [signs, List.mem_cons, not_or] at no_sign
  unfold next
  split <;> simp_all

/-- Most characters have no part in quotations and comments. -/
theorem along_plain_solid (no_sign : c ∉ signs) (rest : List Char) :
    along .plain (c :: rest) = along .plain rest := by
  rw [along_plain_cons, next_plain_of_not_mem no_sign]
  · rintro ⟨rfl, -⟩
    exact no_sign (by decide)
  · rintro ⟨rfl, -⟩
    exact no_sign (by decide)

/-- Text without signs leaves the context plain. -/
theorem along_plain_append (no_sign : ∀ c ∈ text, c ∉ signs) (rest : List Char) :
    along .plain (text ++ rest) = along .plain rest := by
  induction text with
  | nil => rfl
  | cons c text ih =>
      obtain ⟨first, others⟩ := List.forall_mem_cons.mp no_sign
      rw [List.cons_append, along_plain_solid first, ih others]

theorem not_mem_signs_of_isSpace (blank : Unicode.isSpace c = true) : c ∉ signs :=
  not_mem_of_any_eq_false blank (by decide +kernel)

/-- White space leaves the context plain. -/
theorem along_plain_space (blank : Unicode.isSpace c = true) :
    along .plain (c :: rest) = along .plain rest :=
  along_plain_solid (not_mem_signs_of_isSpace blank) rest

/-! ### Comments -/

/-- A comment that ends with its line goes up to the next line break. -/
theorem along_line : along .line text =
    if '\n' ∈ text then along .plain (text.dropWhile (· ≠ '\n')) else .line := by
  induction text with
  | nil => rfl
  | cons c rest ih =>
      rw [along_line_cons]
      by_cases ends : c = '\n'
      · subst ends
        rw [if_pos List.mem_cons_self, List.dropWhile_cons_of_neg (by simp)]
        exact (along_plain_solid (by decide) rest).symm
      · have stays : next .line c = .line := by
          unfold next
          split <;> simp_all
        rw [stays, ih, List.dropWhile_cons_of_pos (by simp [ends])]
        simp [Ne.symm ends]

/-- Behind a comment that is closed the context is plain. -/
theorem along_block_of_some (closes : blockComment? text = some (body, rest)) :
    along .block text = along .plain rest := by
  fun_induction blockComment? text generalizing body with
  | case1 => cases closes
  | case2 =>
      cases closes
      rfl
  | case3 c rest' different ih =>
      obtain ⟨⟨inner, after⟩, closes, result⟩ := Option.map_eq_some_iff.mp closes
      cases result
      exact (along_block_cons different).trans (ih closes)

/-- A comment that is never closed goes on. -/
theorem along_block_of_none (never : blockComment? text = none) : along .block text = .block := by
  fun_induction blockComment? text with
  | case1 => rfl
  | case2 => cases never
  | case3 c rest' different ih =>
      exact (along_block_cons different).trans (ih (Option.map_eq_none_iff.mp never))

/-! ### Quotations -/

theorem next_text_of_ne (different : c ≠ '\'') : next .text c = .text := by
  unfold next
  split <;> simp_all

/-- Behind a text that is closed the context is plain. -/
theorem along_text_of_some (closes : quotedText? text = some (value, body, rest)) :
    along .text text = along .plain rest := by
  fun_induction quotedText? text generalizing value body with
  | case1 => cases closes
  | case2 rest' ih =>
      obtain ⟨⟨inner, kept, after⟩, closes, result⟩ := Option.map_eq_some_iff.mp closes
      cases result
      rw [along_text_cons, next, along_plain_cons (by simp) (by simp)]
      exact ih closes
  | case3 rest' single =>
      cases closes
      exact along_text_cons
  | case4 c rest' _ different ih =>
      obtain ⟨⟨inner, kept, after⟩, closes, result⟩ := Option.map_eq_some_iff.mp closes
      cases result
      rw [along_text_cons, next_text_of_ne different]
      exact ih closes

/-- A text that is never closed goes on. -/
theorem along_text_of_none (never : quotedText? text = none) : along .text text = .text := by
  fun_induction quotedText? text with
  | case1 => rfl
  | case2 rest' ih =>
      rw [along_text_cons, next, along_plain_cons (by simp) (by simp)]
      exact ih (Option.map_eq_none_iff.mp never)
  | case3 rest' single => cases never
  | case4 c rest' _ different ih =>
      rw [along_text_cons, next_text_of_ne different]
      exact ih (Option.map_eq_none_iff.mp never)

/-- A quoted name goes on up to its quote. -/
theorem along_name_append (single : '"' ∉ name) (rest : List Char) :
    along .name (name ++ rest) = along .name rest := by
  induction name with
  | nil => rfl
  | cons c name ih =>
      rw [List.mem_cons, not_or] at single
      obtain ⟨different, single⟩ := single
      have stays : next .name c = .name := by
        unfold next
        split <;> simp_all
      rw [List.cons_append, along_name_cons, stays, ih single]

/-! ### Terminals -/

/-- Characters that are no signs may be dropped in front. -/
theorem along_drop {taken : Nat} (no_sign : ∀ c ∈ text.take taken, c ∉ signs) :
    along .plain (text.drop taken) = along .plain text := by
  have split := along_plain_append no_sign (text.drop taken)
  rw [List.take_append_drop] at split
  exact split.symm

theorem not_mem_signs_of_isDigit (digit : c.isDigit = true) : c ∉ signs :=
  not_mem_of_any_eq_false digit (by decide)

theorem not_mem_signs_of_continuesName (continues : continuesName c = true) : c ∉ signs :=
  not_mem_of_any_eq_false continues (by decide +kernel)

/-- Digits may be dropped in front. -/
theorem along_drop_digits :
    along .plain (text.drop (text.takeWhile Char.isDigit).length) = along .plain text := by
  apply along_drop
  rw [← List.prefix_iff_eq_take.mp (List.takeWhile_prefix _)]
  exact fun c member => not_mem_signs_of_isDigit (List.mem_takeWhile_imp member)

/-- A fraction may be dropped in front. -/
theorem along_drop_fraction :
    along .plain (text.drop (fractionLength text)) = along .plain text := by
  unfold fractionLength
  split
  · rw [Nat.add_comm, List.drop_succ_cons, along_drop_digits, along_plain_solid (by decide)]
  · rfl

theorem not_mem_signs_of_exponent (exponent : ¬ (c ≠ 'e' ∧ c ≠ 'E')) : c ∉ signs := by
  intro sign
  have none : signs.all (fun c => decide (c ≠ 'e' ∧ c ≠ 'E')) = true := by decide
  exact exponent (of_decide_eq_true (List.all_eq_true.mp none c sign))

/-- An exponent may be dropped in front. -/
theorem along_drop_exponent :
    along .plain (text.drop (exponentLength text)) = along .plain text := by
  fun_cases exponentLength text with
  | case2 mark sign digit rest exponent signed digits =>
      have passed : along .plain (sign :: digit :: rest) = along .plain (digit :: rest) := by
        rcases signed with rfl | rfl
        · exact along_plain_solid (by decide) _
        · have no_dash : ¬ ('-' = '-' ∧ (digit :: rest).head? = some '-') := by
            rintro ⟨-, second⟩
            cases second
            cases digits
          exact along_plain_cons no_dash (by simp)
      have solid := along_plain_solid (not_mem_signs_of_isDigit digits) rest
      rw [along_plain_solid (not_mem_signs_of_exponent exponent), passed, solid, Nat.add_comm,
        List.drop_succ_cons, List.drop_succ_cons, List.drop_succ_cons, along_drop_digits]
  | case4 mark sign digit rest exponent _ digits =>
      rw [along_plain_solid (not_mem_signs_of_exponent exponent),
        along_plain_solid (not_mem_signs_of_isDigit digits), Nat.add_comm, List.drop_succ_cons,
        List.drop_succ_cons, along_drop_digits]
  | case6 mark digit exponent =>
      have marked : ¬ (mark ≠ 'e' ∧ mark ≠ 'E') := fun none => exponent.1.elim none.1 none.2
      rw [along_plain_solid (not_mem_signs_of_exponent marked),
        along_plain_solid (not_mem_signs_of_isDigit exponent.2)]
      rfl
  | _ => rfl

/-- Behind a number the context is plain. -/
theorem along_plain_number (found : scanNumber text place = .ok scanned) :
    along .plain scanned.rest = along .plain text := by
  obtain ⟨whole, digits⟩ : ∃ whole, whole = (text.takeWhile Char.isDigit).length := ⟨_, rfl⟩
  obtain ⟨fraction, point⟩ : ∃ fraction, fraction = fractionLength (text.drop whole) := ⟨_, rfl⟩
  obtain ⟨exponent, mark⟩ : ∃ exponent, exponent = exponentLength (text.drop (whole + fraction)) :=
    ⟨_, rfl⟩
  have left : scanned.rest = text.drop (whole + fraction + exponent) := by
    unfold scanNumber at found
    dsimp only at found
    rw [← digits, ← point, ← mark] at found
    split at found <;> split at found <;> cases found <;> rfl
  calc along .plain scanned.rest
    _ = along .plain ((text.drop (whole + fraction)).drop exponent) := by
      rw [left, List.drop_drop]
    _ = along .plain ((text.drop whole).drop fraction) := by
      rw [mark, along_drop_exponent, List.drop_drop]
    _ = along .plain text := by
      rw [point, along_drop_fraction, digits, along_drop_digits]

/-- Behind a symbol the context is plain. -/
theorem along_plain_symbol (starts : StartsToken c rest)
    (found : scanSymbol? (c :: rest) = some scanned) :
    along .plain (c :: rest) = along .plain scanned.rest := by
  have step := along_plain_cons starts.no_lineComment starts.no_blockComment
  unfold scanSymbol? at found
  generalize whole : c :: rest = text at found
  split at found <;> cases found <;> cases whole
  all_goals exact step

/-- Behind a token the context is plain. -/
theorem along_plain_token (starts : StartsToken c rest)
    (found : scanTerminal c rest place = .ok scanned) :
    along .plain (c :: rest) = along .plain scanned.rest := by
  have step := along_plain_cons starts.no_lineComment starts.no_blockComment
  unfold scanTerminal at found
  split at found
  · rename_i quote
    split at found <;> cases found
    rename_i closes
    rw [step, quote]
    exact along_text_of_some closes
  split at found
  · rename_i mark
    split at found <;> cases found
    rename_i closes
    obtain ⟨rfl, -, single⟩ := quotedName?_eq_some_iff.mp closes
    rw [step, mark]
    exact (along_name_append single _).trans along_name_cons
  split at found
  · exact (along_plain_number found).symm
  split at found
  · rename_i starts
    cases found
    have whole := List.takeWhile_append_dropWhile (p := continuesName) (l := c :: rest)
    have no_sign : ∀ d ∈ (c :: rest).takeWhile continuesName, d ∉ signs :=
      fun d member => not_mem_signs_of_continuesName (List.mem_takeWhile_imp member)
    have split := along_plain_append no_sign ((c :: rest).dropWhile continuesName)
    rwa [whole] at split
  split at found <;> cases found
  rename_i found
  exact along_plain_symbol starts found

end Context

end Token

end Relational
