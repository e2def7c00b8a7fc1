import Relational.Json.Reader
import Relational.Json.Number
import Relational.Proofs.Decimal

/-!
# Numerals of written numbers

A number is written as JSON has it: digits only, and no zero in front of other
digits.  The numeral of an integer denotes that integer again, and the numeral
of a float has a fraction or an exponent, so that it is not taken for one.
-/

namespace Relational

namespace Numeral

/-- A numeral in the form in which JSON has it. -/
structure Proper (numeral : Numeral) : Prop where
  whole : Json.isWholePart numeral.whole = true
  whole_digits : ∀ c ∈ numeral.whole, c.isDigit = true
  fraction_digits : ∀ c ∈ numeral.fraction, c.isDigit = true

/-! ### Digits of natural numbers -/

theorem isDigit_of_mem_toDigits {n : Nat} : ∀ c ∈ Nat.toDigits 10 n, c.isDigit = true :=
  fun _ member => Nat.isDigit_of_mem_toDigits (by decide) (by decide) member

theorem digitChar_ne_zero : ∀ n < 10, n ≠ 0 → n.digitChar ≠ '0' := by
  decide

/-- The digits of a number other than zero start with another digit than zero. -/
theorem exists_toDigits_eq_cons {n : Nat} (nonzero : n ≠ 0) :
    ∃ first rest, Nat.toDigits 10 n = first :: rest ∧ first ≠ '0' := by
  induction n using Nat.strongRecOn with
  | ind n ih =>
      rcases Nat.lt_or_ge n 10 with single | several
      · exact ⟨n.digitChar, [], Nat.toDigits_of_lt_base single,
          digitChar_ne_zero n single nonzero⟩
      · obtain ⟨first, rest, digits, leading⟩ := ih (n / 10) (by omega) (by omega)
        refine ⟨first, rest ++ [(n % 10).digitChar], ?_, leading⟩
        rw [Nat.toDigits_of_base_le (by decide) several, digits, List.cons_append]

theorem isDigit_of_mem_zero : ∀ c ∈ ['0'], c.isDigit = true := by
  intro c member
  rw [List.mem_singleton.mp member]
  rfl

/-- A text that does not start with a zero is the whole part of a numeral. -/
theorem isWholePart_cons {first : Char} (leading : first ≠ '0') (rest : List Char) :
    Json.isWholePart (first :: rest) = true := by
  unfold Json.isWholePart
  split <;> simp_all

/-- A natural number is written as the whole part of a numeral. -/
theorem isWholePart_toDigits (n : Nat) : Json.isWholePart (Nat.toDigits 10 n) = true := by
  by_cases zero : n = 0
  · rw [zero, Nat.toDigits_zero]
    rfl
  · obtain ⟨first, rest, digits, leading⟩ := exists_toDigits_eq_cons zero
    rw [digits]
    exact isWholePart_cons leading rest

/-! ### Integers -/

/-- The numeral of an integer is one that the grammar of numerals allows. -/
theorem ofInt_proper (n : Int) : (ofInt n).Proper where
  whole := isWholePart_toDigits _
  whole_digits := isDigit_of_mem_toDigits
  fraction_digits := by simp [ofInt]

/-- The numeral of a 64-bit integer denotes it. -/
theorem integer?_ofInt (n : Int64) : (ofInt n.toInt).integer? = some n := by
  have value : Decimal.valueOf (Nat.toDigits 10 n.toInt.natAbs) = n.toInt.natAbs :=
    Nat.ofDigitChars_toDigits (by decide) (by decide)
  have above : Int64.minValue.toInt ≤ n.toInt := Int64.le_toInt n
  have below : n.toInt ≤ Int64.maxValue.toInt := Int.le_of_lt_add_one (Int64.toInt_lt n)
  unfold integer?
  simp only [ofInt, value, ne_eq, not_true_eq_false, or_self, ↓reduceIte, decide_eq_true_eq]
  by_cases negative : n.toInt < 0
  · have magnitude : -(n.toInt.natAbs : Int) = n.toInt := by omega
    rw [if_pos negative, magnitude, if_pos ⟨by omega, above⟩, Int64.ofInt_toInt]
  · have magnitude : (n.toInt.natAbs : Int) = n.toInt := by omega
    rw [if_neg negative, magnitude, if_pos below, Int64.ofInt_toInt]

/-! ### Floats -/

/-- The digits of a decimal other than zero are laid out properly, and with a
fraction or an exponent. -/
theorem layOut_proper (negative : Bool) {first : Char} {rest : List Char} (leading : first ≠ '0')
    (digits : ∀ c ∈ first :: rest, c.isDigit = true) (point : Int) :
    (layOut negative (first :: rest) point).Proper ∧
      (layOut negative (first :: rest) point).integer? = none := by
  have zeros : ∀ (count : Nat) (c : Char), c ∈ List.replicate count '0' → c.isDigit = true :=
    fun count c member => (List.mem_replicate.mp member).2 ▸ rfl
  unfold layOut
  split
  · refine ⟨⟨isWholePart_cons leading _, fun c member => ?_, isDigit_of_mem_zero⟩, ?_⟩
    · rcases List.mem_append.mp member with among | padding
      · exact digits c among
      · exact zeros _ c padding
    · simp [integer?]
  · rename_i short
    split
    · rename_i inside
      obtain ⟨taken, cut⟩ : ∃ taken : Nat, point.toNat = taken + 1 := ⟨point.toNat - 1, by omega⟩
      have left : (first :: rest).drop point.toNat ≠ [] := by
        rw [ne_eq, List.drop_eq_nil_iff]
        omega
      refine ⟨⟨?_, fun c member => digits c (List.mem_of_mem_take member),
        fun c member => digits c (List.mem_of_mem_drop member)⟩, ?_⟩
      · rw [cut]
        exact isWholePart_cons leading _
      · simp only [integer?, if_pos (Or.inl left)]
    · split
      · refine ⟨⟨rfl, isDigit_of_mem_zero, fun c member => ?_⟩, ?_⟩
        · rcases List.mem_append.mp member with padding | among
          · exact zeros _ c padding
          · exact digits c among
        · simp [integer?]
      · refine ⟨⟨isWholePart_cons leading _,
          fun c member => digits c (List.mem_of_mem_take member),
          fun c member => digits c (List.mem_of_mem_drop member)⟩, ?_⟩
        simp [integer?]

/-- A finite float is written properly, and not as an integer. -/
theorem ofBinary64_proper {x : Binary64} (finite : x.isFinite = true) :
    (ofBinary64 x).Proper ∧ (ofBinary64 x).integer? = none := by
  unfold ofBinary64
  split
  · exact ⟨⟨rfl, isDigit_of_mem_zero, isDigit_of_mem_zero⟩, by simp [integer?]⟩
  · rename_i nonzero
    obtain ⟨first, rest, digits, leading⟩ :=
      exists_toDigits_eq_cons (Decimal.shortest_digits_ne_zero .toEven finite nonzero)
    dsimp only
    rw [digits]
    exact layOut_proper _ leading (digits ▸ isDigit_of_mem_toDigits) _

end Numeral

end Relational
