import Mathlib.Data.String.Basic
import Relational.Json.Printer
import Relational.Proofs.Json.Number

/-!
# Written documents are read back

Whatever is written is read back as the value that was written, as long as its
numbers are proper and its strings denote texts.  The blanks that a layout puts
between the parts do not matter.  Each part of a document is read up to where it
ends, whatever follows; only a numeral has to be followed by something that does
not prolong it, which in a document is always so.
-/

namespace Relational

namespace Json

/-! ### Numerals -/

/-- What may follow a numeral: nothing that would prolong it. -/
def EndsNumeral (rest : List Char) : Prop :=
  ∀ c ∈ rest.head?, c.isDigit = false ∧ c ≠ '.' ∧ c ≠ 'e' ∧ c ≠ 'E'

theorem endsNumeral_nil : EndsNumeral [] := by
  simp [EndsNumeral]

/-- Digits are taken as far as they go. -/
theorem spanDigits_append {digits rest : List Char} (all : ∀ c ∈ digits, c.isDigit = true)
    (ends : ∀ c ∈ rest.head?, c.isDigit = false) :
    spanDigits (digits ++ rest) = (digits, rest) := by
  rw [spanDigits, List.takeWhile_append_of_pos all, List.dropWhile_append_of_pos all]
  cases rest with
  | nil => simp
  | cons c rest =>
      have other : c.isDigit = false := ends c rfl
      simp [other]

/-- An exponent is read back as it was written. -/
theorem readExponent_append {rest : List Char} (exponent : Int) (ends : EndsNumeral rest) :
    readExponent (Numeral.exponentText exponent ++ rest) = some (some exponent, rest) := by
  have digits := spanDigits_append (Numeral.isDigit_of_mem_toDigits (n := exponent.natAbs))
    fun c member => (ends c member).1
  have value : Decimal.valueOf (Nat.toDigits 10 exponent.natAbs) = exponent.natAbs :=
    Nat.ofDigitChars_toDigits (by decide) (by decide)
  by_cases negative : exponent < 0
  · have magnitude : -(exponent.natAbs : Int) = exponent := by omega
    simp only [Numeral.exponentText, negative, ↓reduceIte, List.cons_append, readExponent,
      true_or, Decimal.splitSign, digits, List.isEmpty_iff, Nat.toDigits_ne_nil, value, magnitude]
  · have magnitude : (exponent.natAbs : Int) = exponent := by omega
    simp only [Numeral.exponentText, negative, ↓reduceIte, List.cons_append, readExponent,
      true_or, Decimal.splitSign, digits, List.isEmpty_iff, Nat.toDigits_ne_nil, value, magnitude,
      Bool.false_eq_true]

/-- Where a numeral ends, no exponent is read. -/
theorem readExponent_of_endsNumeral {rest : List Char} (ends : EndsNumeral rest) :
    readExponent rest = some (none, rest) := by
  cases rest with
  | nil => rfl
  | cons c rest =>
      obtain ⟨-, -, small, large⟩ := ends c rfl
      simp [readExponent, small, large]

/-- A fraction is read back as it was written, and an unwritten one as the empty one. -/
theorem readFraction_append {fraction rest : List Char} (all : ∀ c ∈ fraction, c.isDigit = true)
    (ends : ∀ c ∈ rest.head?, c.isDigit = false ∧ c ≠ '.') :
    readFraction ((if fraction.isEmpty then [] else '.' :: fraction) ++ rest) =
      some (fraction, rest) := by
  cases fraction with
  | nil =>
      cases rest with
      | nil => rfl
      | cons c rest =>
          have other : c ≠ '.' := (ends c rfl).2
          simp only [List.isEmpty_nil, ↓reduceIte, List.nil_append]
          unfold readFraction
          split
          · simp_all
          · rfl
  | cons digit more =>
      have digits := spanDigits_append all fun c member => (ends c member).1
      rw [List.cons_append] at digits
      simp [readFraction, digits]

/-- A sign is read back as it was written, in front of a text that has none. -/
theorem splitMinus_append (negative : Bool) {text : List Char}
    (unsigned : ∀ c ∈ text.head?, c ≠ '-') :
    splitMinus ((if negative then ['-'] else []) ++ text) = (negative, text) := by
  cases negative with
  | true => rfl
  | false =>
      simp only [Bool.false_eq_true, ↓reduceIte, List.nil_append]
      unfold splitMinus
      split
      · exact absurd rfl (unsigned '-' rfl)
      · rfl

/-- Sign, digits and fraction of a proper numeral are read back in front of what
is read as its exponent. -/
theorem readNumeral_append {numeral : Numeral} (proper : numeral.Proper) {tail rest : List Char}
    (ends : ∀ c ∈ tail.head?, c.isDigit = false ∧ c ≠ '.')
    (read : readExponent tail = some (numeral.exponent, rest)) :
    readNumeral ((if numeral.negative then ['-'] else []) ++ (numeral.whole ++
      ((if numeral.fraction.isEmpty then [] else '.' :: numeral.fraction) ++ tail))) =
      some (numeral, rest) := by
  have fractionRead := readFraction_append proper.fraction_digits ends
  set behind := (if numeral.fraction.isEmpty then [] else '.' :: numeral.fraction) ++ tail
    with behind_eq
  have behindHead : ∀ c ∈ behind.head?, c.isDigit = false := by
    intro c member
    rw [behind_eq] at member
    cases fraction : numeral.fraction with
    | nil =>
        rw [fraction] at member
        exact (ends c member).1
    | cons digit more =>
        rw [fraction] at member
        cases member
        rfl
  have wholeRead := spanDigits_append proper.whole_digits behindHead
  have unsigned : ∀ c ∈ (numeral.whole ++ behind).head?, c ≠ '-' := by
    intro c member same
    cases whole : numeral.whole with
    | nil =>
        have isWhole := proper.whole
        rw [whole] at isWhole
        cases isWhole
    | cons digit more =>
        rw [whole] at member
        cases member
        have numeric := proper.whole_digits c (whole ▸ List.mem_cons_self)
        rw [same] at numeric
        cases numeric
  rw [readNumeral, splitMinus_append numeral.negative unsigned]
  simp only [wholeRead, proper.whole, ↓reduceIte, fractionRead, Option.bind_eq_bind,
    Option.bind_some, read]
  rfl

/-- A proper numeral is read back, up to its end. -/
theorem readNumeral_text {numeral : Numeral} (proper : numeral.Proper) {rest : List Char}
    (ends : EndsNumeral rest) : readNumeral (numeral.text ++ rest) = some (numeral, rest) := by
  cases exponent : numeral.exponent with
  | none =>
      have read := readNumeral_append proper
        (fun c member => ⟨(ends c member).1, (ends c member).2.1⟩)
        (exponent ▸ readExponent_of_endsNumeral ends)
      simpa only [Numeral.text, exponent, List.append_assoc, List.nil_append] using read
  | some power =>
      have mark : ∀ c ∈ (Numeral.exponentText power ++ rest).head?,
          c.isDigit = false ∧ c ≠ '.' := by
        rintro c ⟨⟩
        decide
      have read := readNumeral_append proper mark (exponent ▸ readExponent_append power ends)
      simpa only [Numeral.text, exponent, List.append_assoc] using read

/-! ### Strings -/

/-- The escape of a control character denotes this character. -/
theorem unit?_control : ∀ n < 32,
    unit? '0' '0' (hexDigit (n / 16)) (hexDigit n) = some n := by
  decide

/-- What an escaped character is read as: itself, or the unit that numbers it. -/
inductive Denotes (c : Char) : Piece → Prop
  | character : Denotes c (.character c)
  | unit (control : c.toNat < 32) : Denotes c (.unit c.toNat)

/-- The escape of a character is read as a piece that denotes the character. -/
theorem readPieces_escape (c : Char) {text rest : List Char} {pieces : List Piece}
    (read : readPieces text = some (pieces, rest)) :
    ∃ piece, readPieces (escape c ++ text) = some (piece :: pieces, rest) ∧ Denotes c piece := by
  have short : ∀ letter, letter ≠ 'u' → escaped? letter = some c →
      readPieces ('\\' :: letter :: text) = some (.character c :: pieces, rest) := by
    intro letter notUnit stands
    rw [readPieces]
    · simp [stands, read]
    · simp [notUnit]
  unfold escape
  split
  · exact ⟨_, short '"' (by decide) (by subst_vars; rfl), .character⟩
  split
  · exact ⟨_, short '\\' (by decide) (by subst_vars; rfl), .character⟩
  split
  · exact ⟨_, short 'b' (by decide) (by subst_vars; rfl), .character⟩
  split
  · exact ⟨_, short 'f' (by decide) (by subst_vars; rfl), .character⟩
  split
  · exact ⟨_, short 'n' (by decide) (by subst_vars; rfl), .character⟩
  split
  · exact ⟨_, short 'r' (by decide) (by subst_vars; rfl), .character⟩
  split
  · exact ⟨_, short 't' (by decide) (by subst_vars; rfl), .character⟩
  split
  · rename_i control
    refine ⟨.unit c.toNat, ?_, .unit control⟩
    simp [readPieces, unit?_control _ control, read]
  · refine ⟨.character c, ?_, .character⟩
    rw [List.singleton_append, readPieces]
    · simp_all
    · simp_all
    · simp_all

/-- A piece that denotes a character gives the character before those of the pieces behind
it. -/
theorem join?_cons {c : Char} {piece : Piece} (denotes : Denotes c piece) (pieces : List Piece) :
    Piece.join? (piece :: pieces) = (Piece.join? pieces).map (c :: ·) := by
  cases denotes with
  | character => rfl
  | unit control =>
      have noHigh : Piece.isHighSurrogate c.toNat = false := by
        simp [Piece.isHighSurrogate]
        omega
      have noLow : Piece.isLowSurrogate c.toNat = false := by
        simp [Piece.isLowSurrogate]
        omega
      cases pieces with
      | nil => simp [Piece.join?, noHigh, noLow]
      | cons next more => cases next <;> simp [Piece.join?, noHigh, noLow]

/-- The escapes of characters are read up to the closing quote, and denote the
characters. -/
theorem readPieces_flatMap (characters rest : List Char) :
    ∃ pieces, readPieces (characters.flatMap escape ++ '"' :: rest) = some (pieces, rest) ∧
      Piece.join? pieces = some characters := by
  induction characters with
  | nil => exact ⟨[], by simp [readPieces], rfl⟩
  | cons c more ih =>
      obtain ⟨pieces, read, joined⟩ := ih
      obtain ⟨piece, read', denotes⟩ := readPieces_escape c read
      refine ⟨piece :: pieces, ?_, ?_⟩
      · rw [List.flatMap_cons, List.append_assoc]
        exact read'
      · rw [join?_cons denotes, joined]
        rfl

/-- A text is read back behind its opening quote, up to the closing one. -/
theorem readText_flatMap (s : String) (rest : List Char) :
    readText (s.toList.flatMap escape ++ '"' :: rest) = some (some s, rest) := by
  obtain ⟨pieces, read, joined⟩ := readPieces_flatMap s.toList rest
  simp only [readText, read, Option.map_some, joined, String.ofList_toList]

/-! ### Blanks -/

namespace Layout

/-- A layout puts nothing but blanks between the parts of a document. -/
structure Blank (layout : Layout) : Prop where
  lineBreak : ∀ depth, ∀ c ∈ layout.lineBreak depth, isBlank c = true
  afterColon : ∀ c ∈ layout.afterColon, isBlank c = true

/-- The layout of a snapshot puts nothing but blanks between its elements. -/
theorem indented_blank : indented.Blank where
  lineBreak := by
    intro depth c member
    rcases List.mem_cons.mp member with rfl | space
    · rfl
    · rw [(List.mem_replicate.mp space).2]
      rfl
  afterColon := by simp [indented, isBlank]

end Layout

theorem skipBlanks_append {blanks : List Char} (blank : ∀ c ∈ blanks, isBlank c = true)
    (text : List Char) : skipBlanks (blanks ++ text) = skipBlanks text :=
  List.dropWhile_append_of_pos blank

theorem skipBlanks_cons {c : Char} (visible : isBlank c = false) (text : List Char) :
    skipBlanks (c :: text) = c :: text := by
  simp [skipBlanks, visible]

/-- A value is read in the same way behind blanks. -/
theorem readValue_append {blanks : List Char} (blank : ∀ c ∈ blanks, isBlank c = true)
    (fuel : Nat) (text : List Char) : readValue fuel (blanks ++ text) = readValue fuel text := by
  cases fuel with
  | zero => rfl
  | succ fuel => simp only [readValue, skipBlanks_append blank]

/-- A member is read in the same way behind blanks. -/
theorem readMember_append {blanks : List Char} (blank : ∀ c ∈ blanks, isBlank c = true)
    (fuel : Nat) (text : List Char) : readMember fuel (blanks ++ text) = readMember fuel text := by
  cases fuel with
  | zero => rfl
  | succ fuel => simp only [readMember, skipBlanks_append blank]

/-- Blanks and what stands between the parts of a document end a numeral. -/
theorem endsNumeral_append {blanks rest : List Char} (blank : ∀ c ∈ blanks, isBlank c = true)
    (ends : EndsNumeral rest) : EndsNumeral (blanks ++ rest) := by
  cases blanks with
  | nil => exact ends
  | cons c more =>
      intro other member
      cases member
      have space := blank c List.mem_cons_self
      simp only [isBlank, Bool.or_eq_true, beq_iff_eq] at space
      rcases space with ((rfl | rfl) | rfl) | rfl <;> decide

/-! ### Values -/

/-- A value whose numbers are proper and whose strings and names denote texts. -/
inductive Legible : Json → Prop
  | null : Legible .null
  | boolean (b : Bool) : Legible (.boolean b)
  | number {numeral : Numeral} (proper : numeral.Proper) : Legible (.number numeral)
  | string (s : String) : Legible (.string (some s))
  | array {items : List Json} (each : ∀ item ∈ items, Legible item) : Legible (.array items)
  | object {members : List (Option String × Json)}
      (named : ∀ member ∈ members, member.1.isSome)
      (each : ∀ member ∈ members, Legible member.2) : Legible (.object members)

/-- A value that is read back wherever it is written. -/
def ReadsBack (layout : Layout) (json : Json) : Prop :=
  ∀ (depth fuel : Nat) (rest : List Char), (write layout depth json).length < fuel →
    EndsNumeral rest → readValue fuel (write layout depth json ++ rest) = some (json, rest)

variable {layout : Layout}

theorem ReadsBack.null : ReadsBack layout .null := by
  intro depth fuel rest enough _
  obtain ⟨fuel, rfl⟩ : ∃ more, fuel = more + 1 := ⟨fuel - 1, by omega⟩
  simp [write, readValue, skipBlanks, isBlank]

theorem ReadsBack.boolean (b : Bool) : ReadsBack layout (.boolean b) := by
  intro depth fuel rest enough _
  obtain ⟨fuel, rfl⟩ : ∃ more, fuel = more + 1 := ⟨fuel - 1, by omega⟩
  cases b <;> simp [write, readValue, skipBlanks, isBlank]

/-- Strings are read back, whatever their characters are. -/
theorem ReadsBack.string (s : String) : ReadsBack layout (.string (some s)) := by
  intro depth fuel rest enough _
  obtain ⟨fuel, rfl⟩ : ∃ more, fuel = more + 1 := ⟨fuel - 1, by omega⟩
  have text := readText_flatMap s rest
  simp [write, quoted?, quoted, readValue, skipBlanks, isBlank, text]

/-- A numeral starts with a minus sign or a digit. -/
theorem exists_text_eq_cons {numeral : Numeral} (proper : numeral.Proper) :
    ∃ c rest, numeral.text = c :: rest ∧ (c = '-' ∨ c.isDigit = true) := by
  cases negative : numeral.negative with
  | true => exact ⟨'-', _, by simp only [Numeral.text, negative]; rfl, Or.inl rfl⟩
  | false =>
      cases whole : numeral.whole with
      | nil =>
          have isWhole := proper.whole
          rw [whole] at isWhole
          cases isWhole
      | cons digit more =>
          refine ⟨digit, _, by simp only [Numeral.text, negative, whole]; rfl, Or.inr ?_⟩
          exact proper.whole_digits digit (whole ▸ List.mem_cons_self)

/-- What a numeral starts with is not a blank, and does not close an array. -/
theorem visible_of_numeric {c : Char} (numeric : c = '-' ∨ c.isDigit = true) :
    isBlank c = false ∧ c ≠ ']' := by
  rcases numeric with rfl | digit
  · decide
  · simp only [isBlank, Bool.or_eq_false_iff, beq_eq_false_iff_ne]
    refine ⟨⟨⟨⟨?_, ?_⟩, ?_⟩, ?_⟩, ?_⟩ <;> rintro rfl <;> cases digit

/-- Numerals that the grammar allows are read back. -/
theorem ReadsBack.number {numeral : Numeral} (proper : numeral.Proper) :
    ReadsBack layout (.number numeral) := by
  intro depth fuel rest enough ends
  obtain ⟨fuel, rfl⟩ : ∃ more, fuel = more + 1 := ⟨fuel - 1, by omega⟩
  have read := readNumeral_text proper ends
  obtain ⟨c, more, text, starts⟩ := exists_text_eq_cons proper
  rw [write, readValue, text, List.cons_append, skipBlanks_cons (visible_of_numeric starts).1]
  rw [text, List.cons_append] at read
  -- Every other form of a value starts with another character.
  split
  case h_7 =>
    rw [read]
    rfl
  all_goals
    rename_i shape
    obtain ⟨rfl, -⟩ := List.cons.inj shape
    rcases starts with other | digit
    · cases other
    · cases digit

/-- A value is written from a visible character on that does not close an
array. -/
theorem Legible.exists_write_eq_cons {json : Json} (legible : Legible json) (layout : Layout)
    (depth : Nat) :
    ∃ c rest, write layout depth json = c :: rest ∧ isBlank c = false ∧ c ≠ ']' := by
  cases legible with
  | null => exact ⟨_, _, rfl, rfl, by decide⟩
  | boolean b => cases b <;> exact ⟨_, _, rfl, rfl, by decide⟩
  | number proper =>
      obtain ⟨c, rest, text, starts⟩ := exists_text_eq_cons proper
      exact ⟨c, rest, text, visible_of_numeric starts⟩
  | string s => exact ⟨_, _, rfl, rfl, by decide⟩
  | @array items _ => cases items <;> exact ⟨_, _, rfl, rfl, by decide⟩
  | @object members _ _ => cases members <;> exact ⟨_, _, rfl, rfl, by decide⟩

/-! ### Arrays -/

variable (blank : layout.Blank)
include blank

/-- A numeral may stand in front of the further items of an array. -/
theorem endsNumeral_writeItems (depth : Nat) (items : List Json) (rest : List Char) :
    EndsNumeral (writeItems layout depth items ++ rest) := by
  cases items with
  | nil =>
      rw [writeItems, List.append_assoc]
      refine endsNumeral_append (blank.lineBreak depth) ?_
      rintro c ⟨⟩
      decide
  | cons item items =>
      rw [writeItems]
      rintro c ⟨⟩
      decide

/-- The items of an array are read back if each item is. -/
theorem readItems_writeItems {items : List Json} (each : ∀ item ∈ items, ReadsBack layout item)
    (depth fuel : Nat) (rest : List Char)
    (enough : (writeItems layout depth items).length < fuel) :
    readItems fuel (writeItems layout depth items ++ rest) = some (items, rest) := by
  induction items generalizing fuel with
  | nil =>
      obtain ⟨fuel, rfl⟩ : ∃ more, fuel = more + 1 := ⟨fuel - 1, by omega⟩
      rw [writeItems, List.append_assoc, readItems, skipBlanks_append (blank.lineBreak depth)]
      rfl
  | cons item items ih =>
      obtain ⟨fuel, rfl⟩ : ∃ more, fuel = more + 1 := ⟨fuel - 1, by omega⟩
      simp only [writeItems, List.length_append, List.length_cons] at enough
      have first := each item List.mem_cons_self (depth + 1) fuel
        (writeItems layout depth items ++ rest) (by omega)
        (endsNumeral_writeItems blank depth items rest)
      have others := ih (fun other member => each other (List.mem_cons_of_mem _ member)) fuel
        (by omega)
      simp only [writeItems, List.cons_append, List.append_assoc, readItems,
        skipBlanks_cons (show isBlank ',' = false from rfl),
        readValue_append (blank.lineBreak (depth + 1)), first, others, Option.bind_eq_bind,
        Option.bind_some]
      rfl

/-- An array is read back if its items are. -/
theorem ReadsBack.array {items : List Json} (legible : ∀ item ∈ items, Legible item)
    (each : ∀ item ∈ items, ReadsBack layout item) : ReadsBack layout (.array items) := by
  intro depth fuel rest enough _
  obtain ⟨fuel, rfl⟩ : ∃ more, fuel = more + 1 := ⟨fuel - 1, by omega⟩
  cases items with
  | nil => simp [write, readValue, skipBlanks, isBlank]
  | cons item items =>
      simp only [write, List.length_append, List.length_cons] at enough
      have first := each item List.mem_cons_self (depth + 1) fuel
        (writeItems layout depth items ++ rest) (by omega)
        (endsNumeral_writeItems blank depth items rest)
      have others := readItems_writeItems blank
        (fun other member => each other (List.mem_cons_of_mem _ member)) depth fuel rest (by omega)
      obtain ⟨c, more, text, visible, other⟩ :=
        (legible item List.mem_cons_self).exists_write_eq_cons layout (depth + 1)
      rw [text] at first
      simp only [write, List.cons_append, List.append_assoc, readValue,
        skipBlanks_cons (show isBlank '[' = false from rfl),
        skipBlanks_append (blank.lineBreak (depth + 1)), text, skipBlanks_cons visible] at first ⊢
      split
      · rename_i shape
        exact absurd (List.cons.inj shape).1 other
      · simp only [first, others, Option.bind_eq_bind, Option.bind_some]
        rfl

/-! ### Objects -/

/-- A numeral may stand in front of the further members of an object. -/
theorem endsNumeral_writeMembers (depth : Nat) (members : List (Option String × Json))
    (rest : List Char) : EndsNumeral (writeMembers layout depth members ++ rest) := by
  cases members with
  | nil =>
      rw [writeMembers, List.append_assoc]
      refine endsNumeral_append (blank.lineBreak depth) ?_
      rintro c ⟨⟩
      decide
  | cons member members =>
      rw [writeMembers]
      rintro c ⟨⟩
      decide

/-- A member is read back with its name if its value is read back. -/
theorem readMember_writeMember (name : String) {json : Json} (reads : ReadsBack layout json)
    (depth fuel : Nat) (rest : List Char)
    (enough : (writeMember layout depth (some name, json)).length < fuel)
    (ends : EndsNumeral rest) :
    readMember fuel (writeMember layout depth (some name, json) ++ rest) =
      some ((some name, json), rest) := by
  obtain ⟨fuel, rfl⟩ : ∃ more, fuel = more + 1 := ⟨fuel - 1, by omega⟩
  simp only [writeMember, List.length_append, List.length_cons] at enough
  have value := reads depth fuel rest (by omega) ends
  simp only [writeMember, quoted?, quoted, Option.getD_some, List.cons_append, List.append_assoc,
    List.nil_append, readMember, skipBlanks_cons (show isBlank '"' = false from rfl),
    readText_flatMap, Option.bind_eq_bind, Option.bind_some,
    skipBlanks_cons (show isBlank ':' = false from rfl), readValue_append blank.afterColon, value]
  rfl

/-- The members of an object are read back if each member is. -/
theorem readMembers_writeMembers {members : List (Option String × Json)}
    (named : ∀ member ∈ members, member.1.isSome)
    (each : ∀ member ∈ members, ReadsBack layout member.2) (depth fuel : Nat) (rest : List Char)
    (enough : (writeMembers layout depth members).length < fuel) :
    readMembers fuel (writeMembers layout depth members ++ rest) = some (members, rest) := by
  induction members generalizing fuel with
  | nil =>
      obtain ⟨fuel, rfl⟩ : ∃ more, fuel = more + 1 := ⟨fuel - 1, by omega⟩
      rw [writeMembers, List.append_assoc, readMembers, skipBlanks_append (blank.lineBreak depth)]
      rfl
  | cons member members ih =>
      obtain ⟨fuel, rfl⟩ : ∃ more, fuel = more + 1 := ⟨fuel - 1, by omega⟩
      obtain ⟨name, json⟩ := member
      obtain ⟨name, rfl⟩ := Option.isSome_iff_exists.mp (named (name, json) List.mem_cons_self)
      simp only [writeMembers, List.length_append, List.length_cons] at enough
      have value : ReadsBack layout json := each (some name, json) List.mem_cons_self
      have first := readMember_writeMember blank name value
        (depth + 1) fuel (writeMembers layout depth members ++ rest) (by omega)
        (endsNumeral_writeMembers blank depth members rest)
      have others := ih (fun other among => named other (List.mem_cons_of_mem _ among))
        (fun other among => each other (List.mem_cons_of_mem _ among)) fuel (by omega)
      simp only [writeMembers, List.cons_append, List.append_assoc, readMembers,
        skipBlanks_cons (show isBlank ',' = false from rfl),
        readMember_append (blank.lineBreak (depth + 1)), first, others, Option.bind_eq_bind,
        Option.bind_some]
      rfl

/-- An object is read back if the values of its members are. -/
theorem ReadsBack.object {members : List (Option String × Json)}
    (named : ∀ member ∈ members, member.1.isSome)
    (each : ∀ member ∈ members, ReadsBack layout member.2) :
    ReadsBack layout (.object members) := by
  intro depth fuel rest enough _
  obtain ⟨fuel, rfl⟩ : ∃ more, fuel = more + 1 := ⟨fuel - 1, by omega⟩
  cases members with
  | nil => simp [write, readValue, skipBlanks, isBlank]
  | cons member members =>
      obtain ⟨name, json⟩ := member
      obtain ⟨name, rfl⟩ := Option.isSome_iff_exists.mp (named (name, json) List.mem_cons_self)
      simp only [write, List.length_append, List.length_cons] at enough
      have value : ReadsBack layout json := each (some name, json) List.mem_cons_self
      have first := readMember_writeMember blank name value
        (depth + 1) fuel (writeMembers layout depth members ++ rest) (by omega)
        (endsNumeral_writeMembers blank depth members rest)
      have others := readMembers_writeMembers blank
        (fun other among => named other (List.mem_cons_of_mem _ among))
        (fun other among => each other (List.mem_cons_of_mem _ among)) depth fuel rest (by omega)
      obtain ⟨more, text⟩ : ∃ more,
          writeMember layout (depth + 1) (some name, json) = '"' :: more := ⟨_, rfl⟩
      rw [text] at first
      simp only [write, List.cons_append, List.append_assoc, readValue,
        skipBlanks_cons (show isBlank '\x7b' = false from rfl),
        skipBlanks_append (blank.lineBreak (depth + 1)), text,
        skipBlanks_cons (show isBlank '"' = false from rfl)] at first ⊢
      split
      · rename_i shape
        cases (List.cons.inj shape).1
      · simp only [first, others, Option.bind_eq_bind, Option.bind_some]
        rfl

/-! ### Documents -/

/-- A legible value is read back wherever it is written. -/
theorem Legible.readsBack {json : Json} (legible : Legible json) : ReadsBack layout json := by
  induction legible with
  | null => exact .null
  | boolean b => exact .boolean b
  | number proper => exact .number proper
  | string s => exact .string s
  | array legible ih => exact .array blank legible ih
  | object named _ ih => exact .object blank named ih

omit blank in
/-- A legible value is read back from its document. -/
theorem ofText?_pretty {json : Json} (legible : Legible json) :
    ofText? json.pretty = some json := by
  have read := legible.readsBack Layout.indented_blank 0
    ((write .indented 0 json).length + 1) [] (Nat.lt_succ_self _) endsNumeral_nil
  rw [List.append_nil] at read
  simp [ofText?, pretty, read]

end Json

end Relational
