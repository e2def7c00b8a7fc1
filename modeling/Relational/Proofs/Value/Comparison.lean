import Mathlib.Data.String.Basic
import Relational.Proofs.Binary64
import Relational.Proofs.Fallible
import Relational.Proofs.Value.Key

/-!
# Comparing with a value and with what a column makes of it

A value beside a column may stand in a condition as it was written or as what
the column makes of it.  A cell of the column compares alike with both, whenever
both comparisons succeed, with one exception: an integer is compared with a
float or a text as the nearest float, but with the integer that these become as
an integer, and beyond `2 ^ 53` the two orders differ.
-/

namespace Relational

/-- A text without white space stays as it is. -/
theorem Unicode.trimmed_of_solid {text : List Char} (solid : ∀ c ∈ text, isSpace c = false) :
    trimmed text = text := by
  have kept : ∀ {chars : List Char}, (∀ c ∈ chars, isSpace c = false) →
      chars.dropWhile isSpace = chars := by
    intro chars solid
    cases chars with
    | nil => rfl
    | cons c rest => exact List.dropWhile_cons_of_neg (by simp [solid c List.mem_cons_self])
  rw [trimmed, kept solid, kept fun c member => solid c (List.mem_reverse.mp member),
    List.reverse_reverse]

namespace Value

variable {a b cell value converted : Value} {type : ColumnType} {order : Option Ordering}

/-! ### Comparing the other way round -/

theorem compareText_swap (s t : String) : compareText t s = (compareText s t).swap := by
  apply compareOfLessAndEq_eq_swap_of_lt_iff_not_gt_and_ne
  intro x y
  rw [lt_iff_le_and_ne, not_lt]

/-- Exchanging two values reverses their order, if they have one. -/
theorem compare?_swap (a b : Value) : b.compare? a = (a.compare? b).map Ordering.swap := by
  cases a <;> cases b
  case integer.integer m n => exact congrArg some (Int.compare_swap _ _).symm
  case float.float x y => exact Binary64.compare?_swap x y
  case integer.float m y => exact Binary64.compare?_swap _ y
  case float.integer x n => exact Binary64.compare?_swap x _
  case boolean.boolean p q => cases p <;> cases q <;> rfl
  case text.text s t => exact congrArg some (compareText_swap s t)
  all_goals rfl

/-- Exchanging two values reverses their order as numbers, if they have one. -/
theorem compareAsNumbers?_swap (a b : Value) :
    b.compareAsNumbers? a = (a.compareAsNumbers? b).map (Option.map Ordering.swap) := by
  unfold compareAsNumbers?
  cases a.comparisonNumber? <;> cases b.comparisonNumber? <;> try rfl
  rename_i x y
  exact congrArg some (Binary64.compare?_swap x y)

/-- A comparison that succeeds does so the other way round, with the order
reversed. -/
theorem comparison_swap (compared : a.comparison b = .ok order) :
    b.comparison a = .ok (order.map Ordering.swap) := by
  unfold comparison at compared ⊢
  rw [Bool.or_comm, compare?_swap a b, compareAsNumbers?_swap a b]
  split at compared
  · rename_i null
    cases compared
    rw [if_pos null]
    rfl
  · rename_i notNull
    rw [if_neg notNull]
    cases direct : a.compare? b with
    | some found =>
        rw [direct] at compared
        cases compared
        rfl
    | none =>
        rw [direct] at compared
        cases numeric : a.compareAsNumbers? b with
        | some found =>
            rw [numeric] at compared
            cases compared
            rfl
        | none =>
            rw [numeric] at compared
            cases compared

/-! ### Comparing as numbers -/

/-- Values of different kinds are comparable only if both denote numbers. -/
theorem numbers_of_comparison (present : a.isNull = false) (present' : b.isNull = false)
    (unlike : a.compare? b = none) (compared : a.comparison b = .ok order) :
    ∃ x y, a.comparisonNumber? = some x ∧ b.comparisonNumber? = some y ∧
      order = Binary64.compare? x y := by
  unfold comparison at compared
  simp only [present, present', unlike, Bool.or_self, Bool.false_eq_true, ↓reduceIte,
    compareAsNumbers?] at compared
  cases first : a.comparisonNumber? with
  | none =>
      rw [first] at compared
      cases compared
  | some x =>
      cases second : b.comparisonNumber? with
      | none =>
          rw [first, second] at compared
          cases compared
      | some y =>
          rw [first, second] at compared
          cases compared
          exact ⟨x, y, rfl, rfl, rfl⟩

/-- Two numbers compare as their floats if they do so directly. -/
theorem comparison_of_numbers {x y : Binary64} (number : a.asFloat? = some x)
    (number' : b.asFloat? = some y) (direct : a.compare? b = Binary64.compare? x y) :
    a.comparison b = .ok (Binary64.compare? x y) := by
  have spoken : ∀ {c : Value} {z : Binary64}, c.asFloat? = some z →
      c.isNull = false ∧ c.comparisonNumber? = some z := by
    intro c z number
    cases c <;> cases number <;> exact ⟨rfl, rfl⟩
  obtain ⟨present, first⟩ := spoken number
  obtain ⟨present', second⟩ := spoken number'
  unfold comparison
  rw [present, present', direct]
  cases found : Binary64.compare? x y with
  | none => simp [compareAsNumbers?, first, second, found]
  | some order => rfl

/-! ### Words for truth -/

/-- A character with a lower case is this one, or the one of upper case. -/
theorem eq_of_toLower {c d : Char} (folded : c.toLower = d) :
    c = d ∨ c = Char.ofNat (d.toNat - 32) := by
  unfold Char.toLower at folded
  split at folded
  · rename_i upper
    have bounded : c.val.toNat ≤ 90 := UInt32.le_iff_toNat_le.mp upper.2
    have shifted : d.toNat = c.toNat + 32 := by
      rw [← folded]
      change (c.val + 32).toNat = c.val.toNat + 32
      rw [UInt32.toNat_add]
      change (c.val.toNat + 32) % 4294967296 = _
      omega
    right
    rw [shifted, Nat.add_sub_cancel, Char.ofNat_toNat]
  · exact Or.inl folded

/-- The letters of the words for truth. -/
def truthLetters : List Char :=
  ['t', 'r', 'u', 'e', 'f', 'a', 'l', 's']

/-- Nothing is trimmed away from letters of the words for truth. -/
theorem trimmed_of_letters {text : List Char} (letters : ∀ c ∈ text, c.toLower ∈ truthLetters) :
    Unicode.trimmed text = text := by
  have solid : ∀ c ∈ text, Unicode.isSpace c = false := by
    intro c member
    have both : truthLetters.all (fun d =>
        !Unicode.isSpace d && !Unicode.isSpace (Char.ofNat (d.toNat - 32))) = true := by
      decide +kernel
    have each := List.all_eq_true.mp both _ (letters c member)
    rw [Bool.and_eq_true, Bool.not_eq_true', Bool.not_eq_true'] at each
    rcases eq_of_toLower (rfl : c.toLower = c.toLower) with same | same
    · rw [same]
      exact each.1
    · rw [same]
      exact each.2
  exact Unicode.trimmed_of_solid solid

/-- Only the two words for truth, in any case, spell a boolean. -/
theorem folds_of_booleanOfText? {s : String} {b : Bool} (spells : booleanOfText? s = some b) :
    s.toList.map Char.toLower = ['t', 'r', 'u', 'e'] ∨
      s.toList.map Char.toLower = ['f', 'a', 'l', 's', 'e'] := by
  unfold booleanOfText? at spells
  split at spells
  · rename_i word
    exact Or.inl (String.ofList_inj.mp word)
  · split at spells
    · rename_i word
      exact Or.inr (String.ofList_inj.mp word)
    · cases spells

/-- A text that starts like a word for truth, with neither a sign nor a digit
nor a point, can only be a name. -/
theorem readFloat?_of_first {c : Char} {rest : List Char}
    (first : c.toLower = 't' ∨ c.toLower = 'f') :
    Decimal.readFloat? (String.ofList (c :: rest)) = Decimal.readName? (c :: rest) := by
  have letter : c = 't' ∨ c = 'T' ∨ c = 'f' ∨ c = 'F' := by
    rcases first with folded | folded
    · rcases eq_of_toLower folded with same | same
      · exact Or.inl same
      · exact Or.inr (Or.inl same)
    · rcases eq_of_toLower folded with same | same
      · exact Or.inr (Or.inr (Or.inl same))
      · exact Or.inr (Or.inr (Or.inr same))
  have unsigned : Decimal.splitSign (c :: rest) = (false, c :: rest) ∧
      Decimal.readUnsigned? (c :: rest) = Decimal.readName? (c :: rest) := by
    rcases letter with rfl | rfl | rfl | rfl <;> exact ⟨rfl, rfl⟩
  unfold Decimal.readFloat?
  rw [String.toList_ofList, unsigned.1]
  change (Decimal.readUnsigned? (c :: rest)).map (fun x => x) = _
  rw [unsigned.2, Option.map_id']

/-- A word for truth is not a numeral. -/
theorem readFloat?_of_booleanOfText? {s : String} {b : Bool} (spells : booleanOfText? s = some b) :
    Decimal.readFloat? (Unicode.trim s) = none := by
  have folds := folds_of_booleanOfText? spells
  have letters : ∀ c ∈ s.toList, c.toLower ∈ truthLetters := by
    intro c member
    have folded := List.mem_map_of_mem (f := Char.toLower) member
    rcases folds with folds | folds <;> rw [folds] at folded
    · exact (by decide : ['t', 'r', 'u', 'e'] ⊆ truthLetters) folded
    · exact (by decide : ['f', 'a', 'l', 's', 'e'] ⊆ truthLetters) folded
  have unnamed : Decimal.readName? s.toList = none := by
    unfold Decimal.readName?
    rcases folds with folds | folds <;> rw [folds] <;> decide
  rw [Unicode.trim, trimmed_of_letters letters]
  cases text : s.toList with
  | nil =>
      rw [text] at folds
      rcases folds with folds | folds <;> cases folds
  | cons c rest =>
      rw [text] at folds unnamed
      have first : c.toLower = 't' ∨ c.toLower = 'f' :=
        folds.imp (fun folds => (List.cons.inj folds).1) fun folds => (List.cons.inj folds).1
      rw [readFloat?_of_first first, unnamed]

/-! ### What a column makes of a value -/

/-- What a value other than an integer denotes: the float that it is compared as
and the integer that it becomes in a column of integers. -/
inductive Denotes : Value → Binary64 → Int64 → Prop
  | float {x : Binary64} {k : Int64} (integral : integerOfFloat? x = some k) :
      Denotes (.float x) x k
  | text {s : String} {x : Binary64} {k : Int64}
      (reads : Decimal.readFloat? (Unicode.trim s) = some x)
      (integral : integerOfText? s = some k) : Denotes (.text s) x k

/-- An integer has the same order with both numbers that a value denotes. -/
def Faithful (n : Int64) (value : Value) : Prop :=
  ∀ x k, Denotes value x k →
    Binary64.compare? (Binary64.ofInt64 n) x = some (compare n.toInt k.toInt)

/-- Numbers that are exact as floats keep their order. -/
theorem faithful_of_exact {n : Int64} (exact : (Binary64.ofInt64 n).toInt? = some n.toInt)
    (exact' : ∀ x k, Denotes value x k → x.toInt? = some k.toInt) : Faithful n value :=
  fun x k denotes => Binary64.compare?_of_toInt? exact (exact' x k denotes)

/-- A boolean compares with another one as it does with its bit. -/
theorem comparison_boolean_bit (b c : Bool) :
    (boolean b).comparison (boolean c) = (boolean b).comparison (integer (if c then 1 else 0)) := by
  cases b <;> cases c <;> decide +kernel

/-- A cell compares alike with a value and with what its column makes of the
value. -/
theorem comparison_converted (fits : cell.Fits type)
    (converts : value.convert? type = some converted)
    (faithful : ∀ n, cell = .integer n → Faithful n value) :
    Agree (cell.comparison value) (cell.comparison converted) := by
  have conversion := Conversion.of_convert? converts
  cases cell with
  | null => exact Agree.refl _
  | integer n =>
      cases fits
      cases conversion with
      | kept => exact Agree.refl _
      | @integral x k integral =>
          rw [comparison_of_numbers rfl rfl rfl, faithful n rfl x k (.float integral)]
          exact Agree.refl (ε := Error) _
      | @readInteger s k integral =>
          intro order order' compared compared'
          obtain ⟨_, x, number, reads, rfl⟩ := numbers_of_comparison rfl rfl rfl compared
          cases number
          rw [faithful n rfl x k (.text reads integral)]
          exact Except.ok.inj compared'.symm
  | float x =>
      cases fits
      cases conversion with
      | kept => exact Agree.refl _
      | nearest m =>
          rw [comparison_of_numbers rfl rfl rfl, comparison_of_numbers rfl rfl rfl]
          exact Agree.refl (ε := Error) _
      | readFloat spells =>
          obtain ⟨spells, -⟩ := Option.filter_eq_some_iff.mp spells
          intro order order' compared compared'
          obtain ⟨_, _, number, reads, rfl⟩ := numbers_of_comparison rfl rfl rfl compared
          cases number
          cases spells.symm.trans reads
          rw [comparison_of_numbers rfl rfl rfl] at compared'
          exact Except.ok.inj compared'.symm
  | boolean b =>
      cases fits
      cases conversion with
      | kept => exact Agree.refl _
      | bit c =>
          rw [comparison_boolean_bit]
          exact Agree.refl _
      | readBoolean spells =>
          intro order order' compared
          obtain ⟨_, _, -, reads, -⟩ := numbers_of_comparison rfl rfl rfl compared
          cases (readFloat?_of_booleanOfText? spells).symm.trans reads
  | text s =>
      cases fits
      cases conversion with
      | kept => exact Agree.refl _

/-- A value on the left compares with a cell as what the column makes of the value does. -/
theorem comparison_converted_left (fits : cell.Fits type)
    (converts : value.convert? type = some converted)
    (faithful : ∀ n, cell = .integer n → Faithful n value) :
    Agree (value.comparison cell) (converted.comparison cell) := by
  intro order order' compared compared'
  have same := comparison_converted fits converts faithful _ _ (comparison_swap compared)
    (comparison_swap compared')
  exact Option.map_injective (fun _ _ => Ordering.swap_inj.mp) same

end Value

end Relational
