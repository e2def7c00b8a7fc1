import Relational.Proofs.Grammar.Expression
import Relational.Proofs.Token.Scanning
import Relational.Proofs.Value.Exactness

/-!
# Integers as literals

The literal of an integer is its decimal numeral, with a minus sign in front of a
negative one.  The scanner takes the digits and the sign apart, and the grammar puts
them together again.  Between the two the digits are an integer of their own, which
has to fit into 64 bits; they do for all integers but the least one, whose magnitude
is one more than the greatest integer.
-/

namespace Relational

open Decimal Grammar

/-- A text is read as an expression: it is cut into tokens, and all of them up to the
end of the input form the expression. -/
def Expr.ReadFrom (expression : Expr) (text : String) : Prop :=
  ∃ tokens last, Token.ofText text = .ok (tokens ++ [last]) ∧ last.terminal = .endOfInput ∧
    Grammar.expression (tokens ++ [last]) = .ok (expression, [last])

namespace Token

variable {c : Char} {rest : List Char} {place : Place}

/-- Digits that denote an integer within 64 bits are scanned as this integer. -/
theorem scanNumber_digits {n : Int64} (each : ∀ d ∈ c :: rest, d.isDigit)
    (value : readInt64? (String.ofList (c :: rest)) = some n) :
    scanNumber (c :: rest) place = .ok ⟨.integer n, c :: rest, []⟩ := by
  have whole : (c :: rest).takeWhile Char.isDigit = c :: rest := List.takeWhile_eq_self_iff.mpr each
  unfold scanNumber
  simp only [whole, List.drop_length, fractionLength, exponentLength, Nat.add_zero,
    List.take_length, ↓reduceIte, value]

/-- What starts with a digit is a number. -/
theorem scanTerminal_digit (digit : c.isDigit) :
    scanTerminal c rest place = scanNumber (c :: rest) place := by
  have no_quote : c ≠ '\'' := by
    rintro rfl
    cases digit
  have no_mark : c ≠ '"' := by
    rintro rfl
    cases digit
  rw [scanTerminal, if_neg no_quote, if_neg no_mark, if_pos (by simp [digit])]

/-- A digit starts a token. -/
theorem StartsToken.of_digit (digit : c.isDigit) : StartsToken c rest := by
  refine ⟨isSpace_of_isDigit digit, fun dashes => ?_, fun opens => ?_⟩
  · rw [dashes.1] at digit
    cases digit
  · rw [opens.1] at digit
    cases digit

/-- A minus sign in front of a digit starts a token. -/
theorem StartsToken.minus (digit : c.isDigit) : StartsToken '-' (c :: rest) := by
  refine ⟨rfl, fun dashes => ?_, fun opens => absurd opens.1 (by decide)⟩
  rw [Option.some.inj dashes.2] at digit
  cases digit

/-- Digits that denote an integer spell it. -/
theorem Spells.digits {digits : List Char} {n : Int64} (nonempty : digits ≠ [])
    (each : ∀ d ∈ digits, d.isDigit) (value : readInt64? (String.ofList digits) = some n) :
    Spells digits [.integer n, .endOfInput] := by
  obtain ⟨c, rest, rfl⟩ := List.exists_cons_of_ne_nil nonempty
  have digit := each c List.mem_cons_self
  have found : scanTerminal c rest Place.start = .ok ⟨.integer n, c :: rest, []⟩ := by
    rw [scanTerminal_digit digit, scanNumber_digits each value]
  exact .token (.of_digit digit) found .nil

/-- A minus sign in front of a number spells itself. -/
theorem Spells.minus {terminals : List Terminal} (digit : c.isDigit)
    (spells : Spells (c :: rest) terminals) :
    Spells ('-' :: c :: rest) (.symbol .minus :: terminals) := by
  have found : scanTerminal '-' (c :: rest) Place.start =
      .ok ⟨.symbol .minus, ['-'], c :: rest⟩ := rfl
  exact .token (.minus digit) found spells

end Token

/-! ### Numerals -/

/-- The digits of a natural number, as far as they are read as an integer. -/
theorem readInt64?_toDigits (magnitude : Nat) :
    readInt64? (String.ofList (Nat.toDigits 10 magnitude)) =
      if (magnitude : Int) ≤ Int64.maxValue.toInt then some (Int64.ofInt magnitude) else none := by
  have each : ∀ d ∈ Nat.toDigits 10 magnitude, d.isDigit :=
    fun _ member => Nat.isDigit_of_mem_toDigits (by decide) (by decide) member
  have value : valueOf (Nat.toDigits 10 magnitude) = magnitude :=
    Nat.ofDigitChars_toDigits (by decide) (by decide)
  have numeral : Signed (String.ofList (Nat.toDigits 10 magnitude)).toList magnitude false
      (Nat.toDigits 10 magnitude) := by
    rw [String.toList_ofList]
    exact ⟨splitSign_digits each, Nat.toDigits_ne_nil, each, by rw [value]; rfl⟩
  have least : Int64.minValue.toInt ≤ (magnitude : Int) :=
    (by decide : Int64.minValue.toInt ≤ 0).trans (Int.natCast_nonneg _)
  rw [numeral.readInt64?]
  simp only [least, true_and]

namespace Value

/-- The numeral of an integer other than the least one is cut into the digits of its
magnitude and the sign in front of them. -/
theorem spells_integer {n : Int64} (above : n ≠ Int64.minValue) :
    Token.Spells (Value.integer n).sqlLiteral.toList
      ((Value.integer n).terminals ++ [.endOfInput]) := by
  have least : Int64.minValue.toInt ≤ n.toInt := Int64.le_toInt n
  have greatest : n.toInt ≤ Int64.maxValue.toInt := Int.le_of_lt_add_one (Int64.toInt_lt n)
  have apart : n.toInt ≠ Int64.minValue.toInt := fun same => above (Int64.toInt_inj.mp same)
  have symmetric : Int64.minValue.toInt = -(Int64.maxValue.toInt + 1) := by decide
  have fits : (n.toInt.natAbs : Int) ≤ Int64.maxValue.toInt := by omega
  have digits := readInt64?_toDigits n.toInt.natAbs
  rw [if_pos fits] at digits
  have each : ∀ d ∈ Nat.toDigits 10 n.toInt.natAbs, d.isDigit :=
    fun _ member => Nat.isDigit_of_mem_toDigits (by decide) (by decide) member
  have spelled := Token.Spells.digits Nat.toDigits_ne_nil each digits
  have written : (Value.integer n).sqlLiteral.toList = integerNumeral n.toInt :=
    String.toList_ofList
  rw [written, integerNumeral, Value.terminals]
  by_cases negative : n.toInt < 0
  · have magnitude : Int64.ofInt n.toInt.natAbs = -n := by
      rw [Int.ofNat_natAbs_of_nonpos negative.le, Int64.ofInt_neg, Int64.ofInt_toInt]
    rw [if_pos negative, if_pos (Int64.lt_iff_toInt_lt.mpr negative), ← magnitude]
    obtain ⟨c, rest, same⟩ := List.exists_cons_of_ne_nil (Nat.toDigits_ne_nil (b := 10))
    rw [same] at each spelled ⊢
    exact .minus (each c List.mem_cons_self) spelled
  · have magnitude : Int64.ofInt n.toInt.natAbs = n := by
      rw [Int.natAbs_of_nonneg (not_lt.mp negative), Int64.ofInt_toInt]
    rw [if_neg negative, if_neg fun below => negative (Int64.lt_iff_toInt_lt.mp below)]
    rwa [magnitude] at spelled

/-- An expression is read from a text that spells it up to the end. -/
theorem readFrom_of_spells {expression : Expr} {text : String}
    (expressible : expression.Expressible) (levels : 2 * expression.height ≤ maxNesting)
    (spells : Token.Spells text.toList (expression.terminals ++ [.endOfInput])) :
    expression.ReadFrom text := by
  obtain ⟨tokens, cuts, named⟩ := Token.exists_ofText spells
  obtain ⟨front, back, rfl, written, ended⟩ := List.map_eq_append_iff.mp named
  obtain ⟨last, rfl, final⟩ := List.map_eq_singleton_iff.mp ended
  have stops : Stops 1 .endOfInput := stops_of_none (fun _ => rfl) rfl
  have reads : Grammar.expression.Reads expression.terminals expression [.endOfInput] :=
    expression_reads expressible levels stops (by decide)
  exact ⟨front, last, cuts, final, reads front [last] written ended⟩

/-- The digits of the least integer are cut without their sign, and are too great. -/
theorem ofText_minValue : Token.ofText (Value.integer Int64.minValue).sqlLiteral =
    .error (.integerOutOfRange "9223372036854775808" 1) := by
  decide +kernel

/-- Every integer but the least one is read from its literal. -/
theorem integer_readFrom_iff (n : Int64) :
    (Expr.literal (.integer n)).ReadFrom (Value.integer n).sqlLiteral ↔ n ≠ Int64.minValue := by
  constructor
  · rintro ⟨tokens, last, cuts, -⟩ rfl
    rw [ofText_minValue] at cuts
    cases cuts
  · intro above
    have greater : Int64.minValue < n := Int64.lt_of_le_of_ne (Int64.minValue_le n) above.symm
    have expressible : (Expr.literal (.integer n)).Expressible := by
      refine ⟨rfl, List.forall_mem_singleton.mpr greater, ?_⟩
      exact List.forall_mem_singleton.mpr nofun
    have low : 2 * (Expr.literal (.integer n)).height ≤ maxNesting := by
      change 2 * 1 ≤ 128
      decide
    exact readFrom_of_spells expressible low (spells_integer above)

/-- The literal of the least integer cannot be read at all. -/
theorem minValue_not_readFrom :
    (Value.integer Int64.minValue).sqlLiteral = "-9223372036854775808" ∧
      ¬ ∃ expression : Expr, expression.ReadFrom (Value.integer Int64.minValue).sqlLiteral := by
  refine ⟨by decide +kernel, ?_⟩
  rintro ⟨expression, tokens, last, cuts, -⟩
  rw [ofText_minValue] at cuts
  cases cuts

end Value

end Relational
