import Relational.Proofs.Token.Context

/-!
# Other spaces between tokens

Two texts are alike but for the white space at some breaks, each of them outside of
quotations and of comments that end with their line.  Such texts are cut into the
same tokens at other places, or refused for the same fault, which stands as much
later in the one as it has more white space in front of it.
-/

namespace Relational

namespace Token

/-- Only white space. -/
def Blank (text : List Char) : Prop :=
  ∀ c ∈ text, Unicode.isSpace c = true

/-- What follows some text in a certain context, written with any white space at its
breaks and at its end, and written with one blank at each break. -/
inductive Respaced : Context → List Char → List Char → Prop
  | ends {context : Context} {gap : List Char} (blank : Blank gap) : Respaced context gap []
  | breaks {context : Context} {gap piece text text' : List Char} (may : context.mayBreak = true)
      (blank : Blank gap) (nonempty : gap ≠ []) (behind : Respaced (context.along piece) text text') :
      Respaced context (gap ++ (piece ++ text)) (' ' :: (piece ++ text'))

/-- The same tokens at other places, or the same fault at most so much later. -/
inductive Displaced (room : Nat) :
    Except SyntaxFault (List Token) → Except SyntaxFault (List Token) → Prop
  | tokens {front front' : List Token}
      (same : front.map Token.unplaced = front'.map Token.unplaced) :
      Displaced room (.ok front) (.ok front')
  | fault {fault : SyntaxFault} {distance : Nat} (near : distance ≤ room) :
      Displaced room (.error (fault.moved distance)) (.error fault)

variable {c : Char} {text text' rest gap body piece : List Char} {place place' : Place}
  {context : Context} {outcome : Except SyntaxFault (List Token)}

/-! ### Gaps -/

theorem Blank.separates (blank : Blank gap) : separates gap = true := by
  cases gap with
  | nil => rfl
  | cons c rest => exact blank c List.mem_cons_self

theorem Blank.not_mem (blank : Blank gap) (mark : c ∈ marks) : c ∉ gap :=
  fun member => not_mem_marks_of_isSpace (blank c member) mark

/-- Both texts start with a space, or are empty. -/
theorem Respaced.separates (respaced : Respaced context text text') :
    separates text = true ∧ separates text' = true := by
  cases respaced with
  | ends blank => exact ⟨blank.separates, rfl⟩
  | breaks may blank nonempty behind =>
      obtain ⟨c, gap, rfl⟩ := List.exists_cons_of_ne_nil nonempty
      exact ⟨blank c List.mem_cons_self, rfl⟩

/-- The text with one blank at each break is not the longer one. -/
theorem Respaced.length_le (respaced : Respaced context text text') :
    text'.length ≤ text.length := by
  induction respaced with
  | ends blank => exact Nat.zero_le _
  | breaks may blank nonempty behind ih =>
      have wide := List.length_pos_iff.mpr nonempty
      simp only [List.length_append, List.length_cons]
      omega

/-- White space in front of a text is passed over. -/
theorem Cut.spaces (blank : Blank gap) (behind : Cut (place.after gap) text outcome) :
    Cut place (gap ++ text) outcome := by
  induction gap generalizing place with
  | nil => exact behind
  | cons c gap ih =>
      obtain ⟨first, others⟩ := List.forall_mem_cons.mp blank
      exact .space first (ih others behind)

/-! ### Block comments over breaks -/

/-- A comment that is open behind a piece is closed where it is in what follows, unless its
end lies across the seam. -/
theorem blockComment?_prepend (never : blockComment? piece = none)
    (apart : piece.getLast? = some '*' → text.head? ≠ some '/') : blockComment? (piece ++ text) =
      (blockComment? text).map fun (body, rest) => (piece ++ body, rest) := by
  fun_induction blockComment? piece with
  | case1 => simp
  | case2 => cases never
  | case3 c rest different ih =>
      have never := Option.map_eq_none_iff.mp never
      have later : ∀ behind, c = '*' → rest ++ text = '/' :: behind → False := by
        rintro behind rfl slash
        cases rest with
        | nil => exact apart rfl (by rw [← List.nil_append text, slash]; rfl)
        | cons d rest =>
            obtain ⟨rfl, -⟩ := List.cons.inj slash
            exact different rest rfl rfl
      have apart : rest.getLast? = some '*' → text.head? ≠ some '/' := by
        intro star
        apply apart
        rw [List.getLast?_cons, star]
        rfl
      rw [List.cons_append, blockComment?.eq_3 _ _ later, ih never apart, Option.map_map]
      rfl

/-- A comment is not closed without a star. -/
theorem blockComment?_eq_none (no_star : '*' ∉ text) : blockComment? text = none := by
  fun_induction blockComment? text with
  | case1 => rfl
  | case2 => simp at no_star
  | case3 c rest different ih =>
      rw [ih (fun member => no_star (List.mem_cons_of_mem c member))]
      rfl

/-- White space does not close a comment. -/
theorem blockComment?_gap (never : blockComment? piece = none) (blank : Blank gap) :
    blockComment? (piece ++ gap) = none := by
  rw [blockComment?_prepend never, blockComment?_eq_none (blank.not_mem (by decide))]
  · rfl
  · intro _ slash
    exact blank.not_mem (c := '/') (by decide) (List.mem_of_head? slash)

/-- A comment that is open in front of white space is closed behind it or not at all. -/
theorem blockComment?_over_gap (never : blockComment? piece = none) (blank : Blank gap)
    (nonempty : gap ≠ []) (text : List Char) : blockComment? (piece ++ (gap ++ text)) =
      (blockComment? text).map fun (body, rest) => (piece ++ gap ++ body, rest) := by
  rw [← List.append_assoc]
  apply blockComment?_prepend (blockComment?_gap never blank)
  intro star
  rw [List.getLast?_append, List.getLast?_eq_some_getLast nonempty, Option.some_or] at star
  exact absurd (Option.some.inj star ▸ List.getLast_mem nonempty) (blank.not_mem (by decide))

/-- A comment that is open behind a piece closes in both of two texts, with the same
left behind it up to the next break, or in neither. -/
inductive ClosesAlike (piece text text' : List Char) : Prop
  | never (never : blockComment? (piece ++ text) = none)
      (never' : blockComment? (piece ++ text') = none)
  | closed {body body' left rest rest' : List Char}
      (closes : blockComment? (piece ++ text) = some (body, left ++ rest))
      (closes' : blockComment? (piece ++ text') = some (body', left ++ rest'))
      (shorter : body'.length ≤ body.length)
      (behind : Respaced (Context.along .plain left) rest rest')

/-- A comment that is open at a break is closed alike in both texts. -/
theorem Respaced.closesAlike (respaced : Respaced (Context.along .block piece) text text') :
    ClosesAlike piece text text' := by
  have within {piece body left text text' : List Char}
      (closes : blockComment? piece = some (body, left))
      (respaced : Respaced (Context.along .block piece) text text') :
      ClosesAlike piece text text' :=
    .closed (blockComment?_append closes) (blockComment?_append closes) le_rfl
      (Context.along_block_of_some closes ▸ respaced)
  generalize opened : Context.along .block piece = context at respaced
  induction respaced generalizing piece with
  | ends blank =>
      cases closes : blockComment? piece with
      | some found => exact within closes (opened ▸ .ends blank)
      | none => exact .never (blockComment?_gap closes blank) (by rw [List.append_nil, closes])
  | @breaks context gap piece' text text' may blank nonempty behind ih =>
      cases closes : blockComment? piece with
      | some found => exact within closes (opened ▸ .breaks may blank nonempty behind)
      | none =>
          have inside := opened.symm.trans (Context.along_block_of_none closes)
          have single : Blank [' '] := List.forall_mem_singleton.mpr rfl
          have passed := blockComment?_over_gap closes blank nonempty (piece' ++ text)
          have passed' := blockComment?_over_gap closes single (List.cons_ne_nil _ _) (piece' ++ text')
          rw [List.singleton_append] at passed'
          have again : ClosesAlike piece' text text' := ih (inside ▸ rfl)
          cases again with
          | never never never' =>
              rw [never] at passed
              rw [never'] at passed'
              exact .never passed passed'
          | closed closed closed' shorter behind =>
              rw [closed] at passed
              rw [closed'] at passed'
              refine .closed passed passed' ?_ behind
              have wide := List.length_pos_iff.mpr nonempty
              simp only [List.length_append, List.length_singleton]
              omega

/-! ### Quotations that stay open -/

/-- A text is not closed without a quote. -/
theorem quotedText?_eq_none (single : '\'' ∉ text) : quotedText? text = none := by
  induction text with
  | nil => rfl
  | cons c rest ih =>
      rw [List.mem_cons, not_or] at single
      rw [quotedText?.eq_3 _ _ fun _ same => absurd same.symm single.1, if_neg (Ne.symm single.1),
        ih single.2]
      rfl

/-- White space does not close a text. -/
theorem quotedText?_blank (never : quotedText? piece = none) (blank : Blank gap) :
    quotedText? (piece ++ gap) = none := by
  fun_induction quotedText? piece with
  | case1 => exact quotedText?_eq_none (blank.not_mem (by decide))
  | case2 rest ih =>
      rw [List.cons_append, List.cons_append, quotedText?, ih (Option.map_eq_none_iff.mp never)]
      rfl
  | case3 rest single => cases never
  | case4 c rest _ different ih =>
      rw [List.cons_append, quotedText?.eq_3 _ _ fun _ same => absurd same different,
        if_neg different, ih (Option.map_eq_none_iff.mp never)]
      rfl

/-- A name stays open if it is empty or if its mark does not come again. -/
theorem quotedName?_eq_none_iff :
    quotedName? text = none ↔ text.head? = some '"' ∨ '"' ∉ text := by
  constructor
  · intro never
    refine or_iff_not_imp_right.mpr fun member => ?_
    obtain ⟨name, rest, rfl, single⟩ := List.eq_append_cons_of_mem (not_not.mp member)
    cases name with
    | nil => rfl
    | cons c name =>
        have closes : quotedName? (c :: name ++ '"' :: rest) = some (c :: name, rest) :=
          quotedName?_eq_some_iff.mpr ⟨rfl, List.cons_ne_nil c name, single⟩
        cases never.symm.trans closes
  · intro opened
    cases closes : quotedName? text with
    | none => rfl
    | some found =>
        obtain ⟨rfl, nonempty, single⟩ := quotedName?_eq_some_iff.mp closes
        rcases opened with first | absent
        · obtain ⟨c, name, same⟩ := List.exists_cons_of_ne_nil nonempty
          rw [same] at first single
          cases first
          exact absurd List.mem_cons_self single
        · exact absurd (List.mem_append_right _ List.mem_cons_self) absent

/-- Behind a quotation that a text leaves open there is no break. -/
theorem LeavesOpen.respaced (opened : LeavesOpen c piece)
    (respaced : Respaced (Context.along .plain (c :: piece)) text text') :
    LeavesOpen c (piece ++ text) ∧ LeavesOpen c (piece ++ text') := by
  rcases opened with ⟨rfl, never⟩ | ⟨rfl, never⟩
  · have inside : Context.along .plain ('\'' :: piece) = .text :=
      (Context.along_plain_cons (by simp) (by simp)).trans (Context.along_text_of_none never)
    rw [inside] at respaced
    cases respaced with
    | ends blank =>
        exact ⟨.inl ⟨rfl, quotedText?_blank never blank⟩, .inl ⟨rfl, by rw [List.append_nil, never]⟩⟩
    | breaks may => cases may
  · rcases quotedName?_eq_none_iff.mp never with empty | single
    · obtain ⟨rest, rfl⟩ := List.head?_eq_some_iff.mp empty
      exact ⟨.inr ⟨rfl, quotedName?_eq_none_iff.mpr (.inl rfl)⟩,
        .inr ⟨rfl, quotedName?_eq_none_iff.mpr (.inl rfl)⟩⟩
    · have inside : Context.along .plain ('"' :: piece) = .name := by
        have along := Context.along_name_append single []
        rw [List.append_nil] at along
        exact (Context.along_plain_cons (by simp) (by simp)).trans along
      rw [inside] at respaced
      cases respaced with
      | ends blank =>
          refine ⟨.inr ⟨rfl, quotedName?_eq_none_iff.mpr (.inr ?_)⟩,
            .inr ⟨rfl, by rw [List.append_nil, never]⟩⟩
          rw [List.mem_append, not_or]
          exact ⟨single, blank.not_mem (by decide)⟩
      | breaks may => cases may

/-- Quotations that stay open are refused for the same fault. -/
theorem scanTerminal_of_leavesOpen (opened : LeavesOpen c text) (opened' : LeavesOpen c text')
    (place : Place) :
    ∃ fault, scanTerminal c text place = .error fault ∧ scanTerminal c text' place = .error fault := by
  rcases opened with ⟨rfl, never⟩ | ⟨rfl, never⟩
  · rcases opened' with ⟨-, never'⟩ | ⟨other, -⟩
    · exact ⟨.unterminatedString place.offset, by simp [scanTerminal, never],
        by simp [scanTerminal, never']⟩
    · cases other
  · rcases opened' with ⟨other, -⟩ | ⟨-, never'⟩
    · cases other
    · exact ⟨.unterminatedName place.offset, by simp [scanTerminal, never],
        by simp [scanTerminal, never']⟩

/-! ### Cutting -/

/-- Two texts are cut into the same tokens, or refused for the same fault. -/
def CutAlike (room : Nat) (place : Place) (text : List Char) (place' : Place) (text' : List Char) :
    Prop :=
  ∃ outcome outcome', Cut place text outcome ∧ Cut place' text' outcome' ∧
    Displaced room outcome outcome'

variable {distance room : Nat}

/-- White space is cut into the end of input alone. -/
theorem Blank.cut (blank : Blank gap) (place : Place) :
    Cut place gap (.ok [⟨.endOfInput, "", place.after gap⟩]) := by
  have spaces := Cut.spaces blank (.nothing (place.after gap))
  rwa [List.append_nil] at spaces

/-- A run that stops inside of a piece does not depend on what follows it. -/
theorem takeWhile_append_of_mem (inside : Char → Bool) (member : c ∈ piece)
    (stops : inside c = false) (text : List Char) :
    (piece ++ text).takeWhile inside = piece.takeWhile inside ∧
      (piece ++ text).dropWhile inside = piece.dropWhile inside ++ text := by
  induction piece with
  | nil => cases member
  | cons d rest ih =>
      cases within : inside d with
      | false => simp [within]
      | true =>
          have later : c ∈ rest := by
            rcases List.mem_cons.mp member with rfl | later
            · cases within.symm.trans stops
            · exact later
          simpa [within] using ih later

/-- A comment that its line does not end has nothing behind it but white space. -/
theorem cut_lineComment (open_ended : '\n' ∉ piece) (blank : Blank gap) (place : Place) :
    ∃ final, Cut place ('-' :: '-' :: (piece ++ gap)) (.ok [⟨.endOfInput, "", final⟩]) := by
  have inside : ∀ c ∈ piece, decide (c ≠ '\n') = true :=
    fun c member => decide_eq_true fun same => open_ended (same ▸ member)
  have left : (piece ++ gap).dropWhile (· ≠ '\n') = gap.dropWhile (· ≠ '\n') :=
    List.dropWhile_append_of_pos inside
  have blank' : Blank (gap.dropWhile (· ≠ '\n')) :=
    fun c member => blank c ((List.dropWhile_sublist _).subset member)
  exact ⟨_, .lineComment (left.symm ▸ blank'.cut _)⟩

/-- Texts behind a comment that ends with its line are cut alike if what is behind the line
is. -/
theorem cutAlike_lineComment (respaced : Respaced (Context.along .line piece) text text')
    (behind : Respaced (Context.along .plain (piece.dropWhile (· ≠ '\n'))) text text' →
      CutAlike room (place.after ('-' :: '-' :: piece.takeWhile (· ≠ '\n')))
        (piece.dropWhile (· ≠ '\n') ++ text)
        (place'.after ('-' :: '-' :: piece.takeWhile (· ≠ '\n')))
        (piece.dropWhile (· ≠ '\n') ++ text')) :
    CutAlike room place ('-' :: '-' :: (piece ++ text)) place' ('-' :: '-' :: (piece ++ text')) := by
  rw [Context.along_line] at respaced
  split at respaced
  · rename_i ends
    have stops := takeWhile_append_of_mem (· ≠ '\n') ends (by simp)
    obtain ⟨outcome, outcome', cut, cut', displaced⟩ := behind respaced
    refine ⟨outcome, outcome', .lineComment ?_, .lineComment ?_, displaced⟩
    · rwa [(stops text).1, (stops text).2]
    · rwa [(stops text').1, (stops text').2]
  · rename_i open_ended
    cases respaced with
    | ends blank =>
        obtain ⟨final, cut⟩ := cut_lineComment open_ended blank place
        have none : Blank [] := nofun
        obtain ⟨final', cut'⟩ := cut_lineComment open_ended none place'
        exact ⟨_, _, cut, cut', .tokens rfl⟩
    | breaks may => cases may

/-- Texts behind a comment between delimiters are cut alike if what is behind its end is. -/
theorem cutAlike_blockComment (apart : place.offset = place'.offset + distance)
    (within : distance ≤ room) (closes : ClosesAlike piece text text')
    (behind : ∀ body body' left rest rest', piece ++ text = body ++ (left ++ rest) →
      piece ++ text' = body' ++ (left ++ rest') → body'.length ≤ body.length →
      Respaced (Context.along .plain left) rest rest' →
      CutAlike room (place.after ('/' :: '*' :: body)) (left ++ rest)
        (place'.after ('/' :: '*' :: body')) (left ++ rest')) :
    CutAlike room place ('/' :: '*' :: (piece ++ text)) place' ('/' :: '*' :: (piece ++ text')) := by
  cases closes with
  | never never never' =>
      have later : SyntaxFault.unterminatedComment place.offset =
          (SyntaxFault.unterminatedComment place'.offset).moved distance :=
        congrArg SyntaxFault.unterminatedComment apart
      refine ⟨_, _, .openComment never, .openComment never', ?_⟩
      rw [later]
      exact .fault within
  | closed closes closes' shorter respaced =>
      obtain ⟨outcome, outcome', cut, cut', displaced⟩ := behind _ _ _ _ _
        (blockComment?_eq_some closes) (blockComment?_eq_some closes') shorter respaced
      exact ⟨outcome, outcome', .blockComment closes cut, .blockComment closes' cut', displaced⟩

/-- One more token keeps tokens the same but for their places. -/
theorem Displaced.cons {outcome outcome' : Except SyntaxFault (List Token)} {token token' : Token}
    (displaced : Displaced room outcome outcome') (same : token.unplaced = token'.unplaced) :
    Displaced room (outcome.map (token :: ·)) (outcome'.map (token' :: ·)) := by
  cases displaced with
  | tokens others => exact .tokens (by rw [List.map_cons, List.map_cons, same, others])
  | fault near => exact .fault near

/-- Texts that start with the same token are cut alike if what is behind it is. -/
theorem cutAlike_token (bare : StartsToken c piece)
    (respaced : Respaced (Context.along .plain (c :: piece)) text text')
    (apart : place.offset = place'.offset + distance) (within : distance ≤ room)
    (behind : ∀ scanned : Scanned, scanned.Splits (c :: piece) →
      Respaced (Context.along .plain scanned.rest) text text' →
      CutAlike room (place.after scanned.lexeme) (scanned.rest ++ text)
        (place'.after scanned.lexeme) (scanned.rest ++ text')) :
    CutAlike room place (c :: (piece ++ text)) place' (c :: (piece ++ text')) := by
  obtain ⟨separate, separate'⟩ := respaced.separates
  have starts := bare.append separate
  have starts' := bare.append separate'
  by_cases opened : LeavesOpen c piece
  · obtain ⟨opened, opened'⟩ := opened.respaced respaced
    obtain ⟨fault, refuses, refuses'⟩ := scanTerminal_of_leavesOpen opened opened' place'
    refine ⟨_, _, .refused starts ?_, .refused starts' refuses', .fault within⟩
    rw [scanTerminal_moved apart, refuses]
    rfl
  · have moved : scanTerminal c piece place = _ := scanTerminal_moved apart
    have scans := scanTerminal_append separate opened place
    have scans' := scanTerminal_append separate' opened place'
    rw [moved] at scans
    cases found : scanTerminal c piece place' with
    | error fault =>
        rw [found] at scans scans'
        exact ⟨_, _, .refused starts scans, .refused starts' scans', .fault within⟩
    | ok scanned =>
        rw [found] at scans scans'
        change _ = Except.ok (scanned.before text) at scans
        change _ = Except.ok (scanned.before text') at scans'
        rw [Context.along_plain_token bare found] at respaced
        obtain ⟨outcome, outcome', cut, cut', displaced⟩ :=
          behind scanned (scanTerminal_splits found) respaced
        exact ⟨_, _, .token starts scans cut, .token starts' scans' cut', displaced.cons rfl⟩

/-- Texts that differ in their breaks alone are cut into the same tokens, or refused for the
same fault. -/
theorem Respaced.cutAlike (respaced : Respaced (Context.along .plain piece) text text')
    (apart : place.offset = place'.offset + distance)
    (balance : distance + text.length = room + text'.length) :
    CutAlike room place (piece ++ text) place' (piece ++ text') := by
  induction size : (piece ++ text').length using Nat.strong_induction_on
    generalizing piece text text' place place' distance with
  | _ size ih =>
      have within : distance ≤ room := by
        have shorter := respaced.length_le
        omega
      cases piece with
      | nil =>
          cases respaced with
          | ends blank => exact ⟨_, _, blank.cut place, .nothing place', .tokens rfl⟩
          | @breaks _ gap piece text text' may blank nonempty behind =>
              change CutAlike room place (gap ++ (piece ++ text)) place' (' ' :: (piece ++ text'))
              have wide := List.length_pos_iff.mpr nonempty
              simp only [List.length_append, List.length_cons, List.nil_append] at size balance
              have apart' : (place.after gap).offset =
                  (place'.next ' ').offset + (distance + gap.length - 1) := by
                rw [Place.after_offset, Place.next_offset]
                omega
              obtain ⟨outcome, outcome', cut, cut', displaced⟩ :=
                ih _ (by rw [← size, List.length_append]; omega) behind apart' (by omega) rfl
              exact ⟨outcome, outcome', .spaces blank cut, .space rfl cut', displaced⟩
      | cons c rest =>
          by_cases blank : Unicode.isSpace c = true
          · rw [Context.along_plain_space blank] at respaced
            have apart' : (place.next c).offset = (place'.next c).offset + distance := by
              rw [Place.next_offset, Place.next_offset]
              omega
            obtain ⟨outcome, outcome', cut, cut', displaced⟩ :=
              ih _ (by rw [← size]; exact Nat.lt_succ_self _) respaced apart' balance rfl
            exact ⟨outcome, outcome', .space blank cut, .space blank cut', displaced⟩
          by_cases dashes : c = '-' ∧ rest.head? = some '-'
          · obtain ⟨rfl, second⟩ := dashes
            obtain ⟨rest, rfl⟩ := List.head?_eq_some_iff.mp second
            have shorter := (List.dropWhile_sublist (· ≠ '\n') (l := rest)).length_le
            simp only [List.length_append, List.length_cons, List.cons_append] at size
            refine cutAlike_lineComment respaced fun respaced => ?_
            exact ih _ (by rw [← size, List.length_append]; omega) respaced
              (by rw [Place.after_offset, Place.after_offset]; omega) balance rfl
          by_cases opens : c = '/' ∧ rest.head? = some '*'
          · obtain ⟨rfl, second⟩ := opens
            obtain ⟨rest, rfl⟩ := List.head?_eq_some_iff.mp second
            simp only [List.length_append, List.length_cons, List.cons_append] at size
            refine cutAlike_blockComment apart within respaced.closesAlike ?_
            intro body body' left behind behind' whole whole' shorter respaced
            have closer := respaced.length_le
            have lengths := congrArg List.length whole
            have lengths' := congrArg List.length whole'
            simp only [List.length_append] at lengths lengths'
            have apart' : (place.after ('/' :: '*' :: body)).offset =
                (place'.after ('/' :: '*' :: body')).offset +
                  (distance + body.length - body'.length) := by
              simp only [Place.after_offset, List.length_cons]
              omega
            exact ih _ (by rw [← size, List.length_append]; omega) respaced apart' (by omega) rfl
          · have bare : StartsToken c rest := ⟨Bool.not_eq_true _ ▸ blank, dashes, opens⟩
            refine cutAlike_token bare respaced apart within fun scanned splits respaced => ?_
            have shorter := splits.length_lt
            simp only [List.length_append, List.length_cons, List.cons_append] at size shorter
            exact ih _ (by rw [← size, List.length_append]; omega) respaced
              (by rw [Place.after_offset, Place.after_offset]; omega) balance rfl

end Token

end Relational
