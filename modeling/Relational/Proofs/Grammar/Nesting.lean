import Relational.Proofs.Expr.Height
import Relational.Proofs.Grammar.Formation
import Relational.Proofs.Grammar.Statement
import Relational.Proofs.Token.Scanning

/-!
# How deep expressions nest

The parser counts the levels on which it stands, and refuses to go deeper than the
limit.  The expressions that it recognizes therefore have at most that many levels
below their own.  A level may hold any number of nodes, so that the height of an
expression is bounded only by its levels and the longest stretch on one of them.
-/

namespace Relational

open Grammar.Parser Token

namespace Grammar

variable {bound : Nat}

/-! ### Levels -/

/-- A part that is nested less deeply than a bound is within it below the whole. -/
theorem below_of_lt {part : Expr} (deeper : part.nesting < bound) (descent : Expr.Descent) :
    descent.below part.nesting ≤ bound := by
  cases descent with
  | level => exact deeper.le
  | deeper => exact deeper

/-- The amount of an interval stays on the level of the whole. -/
theorem ArgumentAt.below_le {function : ScalarFunction} {position : Nat} {argument : Expr}
    (formed : ArgumentAt (·.nesting < bound) (·.nesting ≤ bound) function position argument) :
    argument.descent.below argument.nesting ≤ bound := by
  cases formed with
  | plain deeper => exact below_of_lt deeper argument.descent
  | interval unit level => exact Expr.nesting_le_iff.mpr (List.forall_mem_singleton.mpr level)

/-- Every rule of the grammar adds at most a level of nesting. -/
theorem nesting_formation (bound : Nat) :
    Formation (·.nesting < bound) (·.nesting ≤ bound) where
  enclosed := le_of_lt
  column _ := Nat.zero_le bound
  literal _ := Nat.zero_le bound
  binary _ _ _ level deeper := Expr.nesting_le_iff.mpr
    (List.forall_mem_cons.mpr ⟨level, List.forall_mem_singleton.mpr deeper⟩)
  unary _ _ deeper := Expr.nesting_le_iff.mpr (List.forall_mem_singleton.mpr deeper)
  rowCount := Nat.zero_le bound
  aggregate _ _ _ deeper := Expr.nesting_le_iff.mpr (List.forall_mem_singleton.mpr deeper)
  call _ formed := by
    refine Expr.nesting_le_iff.mpr (List.forall_mem_map.mpr fun argument member => ?_)
    obtain ⟨position, found⟩ := List.mem_iff_getElem?.mp member
    exact (formed position argument found).below_le
  isIn _ _ _ level _ deeper := Expr.nesting_le_iff.mpr (List.forall_mem_cons.mpr ⟨level,
    List.forall_mem_map.mpr fun item member => below_of_lt (deeper item member) item.descent⟩)
  between _ _ _ _ level deeper deeper' := Expr.nesting_le_iff.mpr (List.forall_mem_cons.mpr
    ⟨level, List.forall_mem_cons.mpr ⟨deeper, List.forall_mem_singleton.mpr deeper'⟩⟩)
  like _ _ _ level deeper := Expr.nesting_le_iff.mpr
    (List.forall_mem_cons.mpr ⟨level, List.forall_mem_singleton.mpr deeper⟩)
  isNull _ _ level := Expr.nesting_le_iff.mpr (List.forall_mem_singleton.mpr level)

/-- An expression some levels below the outermost one nests no deeper than the limit
leaves room for. -/
def NestsAt (depth : Nat) (value : Expr) : Prop :=
  depth + value.nesting ≤ maxNesting

/-- Every rule of the grammar keeps expressions at a depth within what the limit leaves. -/
theorem nestsAt_formation (depth : Nat) (within : depth ≤ maxNesting) :
    Formation (NestsAt (depth + 1)) (NestsAt depth) := by
  have deeper : NestsAt (depth + 1) = (·.nesting < maxNesting - depth) := by
    funext value
    exact propext (by unfold NestsAt; omega)
  have level : NestsAt depth = (·.nesting ≤ maxNesting - depth) := by
    funext value
    exact propext (by unfold NestsAt; omega)
  rw [deeper, level]
  exact nesting_formation (maxNesting - depth)

/-- Expressions that are read are nested less deeply than the limit. -/
theorem expression_yields : Grammar.expression.Yields (·.nesting < maxNesting) :=
  (expression_yields_of NestsAt nestsAt_formation).mono fun value within => by
    unfold NestsAt at within
    omega

/-! ### Statements -/

/-- All expressions of a statement nest no deeper than the limit. -/
def Shallow (statement : Statement) : Prop :=
  ∀ value ∈ statement.expressions, value.nesting < maxNesting

theorem onlyStatement_shallow : onlyStatement.Yields Shallow :=
  (onlyStatement_formedOf expression_yields).mono fun _ formed => formed.expressions

end Grammar

/-- Every expression of a statement that a text spells nests below the limit, so that
its height is at most the limit times the nodes on the longest stretch of one level. -/
theorem Statement.parse_nesting {text : String} {statement : Statement}
    (parsed : parse text = .ok statement) :
    ∀ value ∈ statement.expressions, value.nesting < Grammar.maxNesting ∧
      value.height ≤ Grammar.maxNesting * (value.longestStretch + 1) := by
  obtain ⟨tokens, rest, recognized⟩ := exists_of_parse parsed
  have shallow := Grammar.onlyStatement_shallow tokens statement rest recognized
  intro value member
  refine ⟨shallow value member, (Expr.height_le_levels_mul value).trans ?_⟩
  exact Nat.mul_le_mul_right _ (shallow value member)

/-! ### Stretches without end -/

namespace Grammar

/-- A date that days are taken from again and again, the number of days at each
step being the result of the steps inside. -/
def countdown : Nat → Expr
  | 0 => .column "a"
  | n + 1 => .call .dateSub [.column "a", .interval (countdown n) .day]

/-- The text of a countdown, without parentheses around the amounts. -/
def countdownText : Nat → List Char
  | 0 => ['a']
  | n + 1 =>
    'D' :: (['A', 'T', 'E', '_', 'S', 'U', 'B'] ++ '(' :: 'a' :: ([] ++ ',' ::
      'I' :: (['N', 'T', 'E', 'R', 'V', 'A', 'L'] ++ ' ' :: (countdownText n ++
        ' ' :: 'D' :: (['A', 'Y'] ++ [')'])))))

/-- The terminals that the text of a countdown spells. -/
def countdownTerminals : Nat → List Terminal
  | 0 => [.name "a"]
  | n + 1 => .name "DATE_SUB" :: enclosed ([.name "a"] ++ .symbol .comma ::
      .keyword .interval :: (countdownTerminals n ++ [.name "DAY"]))

/-- A countdown is two higher with every step. -/
theorem countdown_height (n : Nat) : (countdown n).height = 2 * n + 1 := by
  induction n with
  | zero => rfl
  | succ n ih =>
      have leaf : (Expr.column "a").height = 1 := rfl
      rw [countdown, Expr.height_eq]
      simp [Expr.parts, Expr.greatest, Expr.height_interval, ih, leaf]
      omega

/-- The text of a countdown spells its terminals. -/
theorem countdown_spells (n : Nat) {rest : List Char} {terminals : List Terminal}
    (stops : endsWord rest) (spells : Spells rest terminals) :
    Spells (countdownText n ++ rest) (countdownTerminals n ++ terminals) := by
  have column : wordTerminal ['a'] = .name "a" := by decide +kernel
  have function : wordTerminal ['D', 'A', 'T', 'E', '_', 'S', 'U', 'B'] = .name "DATE_SUB" := by
    decide +kernel
  have introduces : wordTerminal ['I', 'N', 'T', 'E', 'R', 'V', 'A', 'L'] = .keyword .interval := by
    decide +kernel
  have unit : wordTerminal ['D', 'A', 'Y'] = .name "DAY" := by decide +kernel
  have leaf : ∀ {behind following}, endsWord behind → Spells behind following →
      Spells ('a' :: ([] ++ behind)) (.name "a" :: following) := by
    intro behind following stops spells
    rw [← column]
    exact .word (by decide) (by decide) (by decide) stops spells
  induction n generalizing rest terminals with
  | zero => exact leaf stops spells
  | succ n ih =>
      have ending : Spells (' ' :: 'D' :: (['A', 'Y'] ++ ')' :: rest))
          (.name "DAY" :: .symbol .rightParen :: terminals) := by
        rw [← unit]
        refine .space rfl (.word (by decide) (by decide) (by decide) (endsWord_cons (by decide)) ?_)
        exact .symbol (by decide) (by decide) rfl spells
      have inner := ih (endsWord_cons (by decide)) ending
      have written : countdownText (n + 1) ++ rest =
          'D' :: (['A', 'T', 'E', '_', 'S', 'U', 'B'] ++ '(' :: 'a' :: ([] ++ ',' ::
            'I' :: (['N', 'T', 'E', 'R', 'V', 'A', 'L'] ++ ' ' :: (countdownText n ++
              ' ' :: 'D' :: (['A', 'Y'] ++ ')' :: rest))))) := by
        simp [countdownText]
      have listed : countdownTerminals (n + 1) ++ terminals =
          .name "DATE_SUB" :: .symbol .leftParen :: .name "a" :: .symbol .comma ::
            .keyword .interval :: (countdownTerminals n ++
              .name "DAY" :: .symbol .rightParen :: terminals) := by
        simp [countdownTerminals, enclosed]
      rw [written, listed, ← function, ← introduces]
      refine .word (by decide) (by decide) (by decide) (endsWord_cons (by decide)) ?_
      refine .symbol (by decide) (by decide) rfl (leaf (endsWord_cons (by decide)) ?_)
      refine .symbol (by decide) (by decide) rfl ?_
      exact .word (by decide) (by decide) (by decide) (endsWord_cons (by decide)) (.space rfl inner)

variable {steps depth : Nat} {after : List Terminal}

/-- A countdown is read at a single level of nesting, however high it is. -/
theorem countdown_reads (n : Nat) (enough : n + 2 ≤ steps) (within : depth < maxNesting)
    (apart : ahead after ≠ .symbol .leftParen) :
    (operandAt steps depth).Reads (countdownTerminals n) (countdown n) after := by
  induction n generalizing steps after with
  | zero =>
      obtain ⟨steps, rfl⟩ : ∃ fewer, steps = fewer + 1 := exists_steps (by omega)
      exact operandAt_column "a" apart
  | succ n ih =>
      obtain ⟨steps, rfl⟩ : ∃ fewer, steps = fewer + 1 := exists_steps (by omega)
      obtain ⟨fewer, rfl⟩ : ∃ fewer, steps = fewer + 2 := exists_steps (by omega)
      let write (argument : Expr) : List Terminal :=
        if argument.isInterval then .keyword .interval :: (countdownTerminals n ++ [.name "DAY"])
        else [.name "a"]
      have opens : ∀ value rest, ahead (write value ++ rest) ≠ .symbol .rightParen := by
        intro value rest
        dsimp only [write]
        split <;> nofun
      have listed : (argumentList (expressionAt (fewer + 2) depth) (operandAt (fewer + 2) depth)
          .dateSub).Reads (separated ([.column "a", .interval (countdown n) .day].map write))
          [.column "a", .interval (countdown n) .day] (.symbol .rightParen :: after) := by
        refine argumentList_reads opens fun place value found following ends => ?_
        match place with
        | 0 =>
            cases found
            have stops : Stops 1 (ahead following) ∧ ahead following ≠ .symbol .leftParen := by
              rcases ends with comma | rfl
              · exact comma ▸ ⟨stops_of_none (fun _ => rfl) rfl, nofun⟩
              · exact ⟨stops_of_none (fun _ => rfl) rfl, nofun⟩
            exact expressionAt_operand within stops.1 (operandAt_column "a" stops.2)
        | 1 =>
            cases found
            exact argument_interval .day (ih (by omega) nofun)
      change (operandAt _ depth).Reads _
        (.call .dateSub [.column "a", .interval (countdown n) .day]) _
      exact operandAt_call (functionCall_reads rfl listed)

/-- A text whose only expression is a countdown. -/
def countdownStatement (n : Nat) : String :=
  String.ofList (['D', 'E', 'L', 'E', 'T', 'E', ' ', 'F', 'R', 'O', 'M', ' ', 't', ' ', 'W', 'H',
    'E', 'R', 'E', ' '] ++ countdownText n)

/-- The terminals that this text spells, up to the end of the input. -/
def countdownStatementTerminals (n : Nat) : List Terminal :=
  .keyword .delete :: .keyword .«from» :: .name "t" :: .keyword .«where» :: countdownTerminals n

/-- The text of the statement spells its terminals. -/
theorem countdownStatement_spells (n : Nat) :
    Spells (countdownStatement n).toList (countdownStatementTerminals n ++ [.endOfInput]) := by
  have removes : wordTerminal ['D', 'E', 'L', 'E', 'T', 'E'] = .keyword .delete := by
    decide +kernel
  have origin : wordTerminal ['F', 'R', 'O', 'M'] = .keyword .«from» := by decide +kernel
  have table : wordTerminal ['t'] = .name "t" := by decide +kernel
  have filters : wordTerminal ['W', 'H', 'E', 'R', 'E'] = .keyword .«where» := by decide +kernel
  have condition := countdown_spells n rfl .nil
  rw [List.append_nil] at condition
  have written : (countdownStatement n).toList =
      'D' :: (['E', 'L', 'E', 'T', 'E'] ++ ' ' :: 'F' :: (['R', 'O', 'M'] ++ ' ' ::
        't' :: ([] ++ ' ' :: 'W' :: (['H', 'E', 'R', 'E'] ++ ' ' :: countdownText n)))) := by
    simp [countdownStatement]
  rw [written, countdownStatementTerminals, ← removes, ← origin, ← table, ← filters]
  refine .word (by decide) (by decide) (by decide) (endsWord_cons (by decide)) (.space rfl ?_)
  refine .word (by decide) (by decide) (by decide) (endsWord_cons (by decide)) (.space rfl ?_)
  refine .word (by decide) (by decide) (by decide) (endsWord_cons (by decide)) (.space rfl ?_)
  exact .word (by decide) (by decide) (by decide) (endsWord_cons (by decide)) (.space rfl condition)

/-- A countdown is written with more terminals than it has steps. -/
theorem length_countdownTerminals (n : Nat) : n < (countdownTerminals n).length := by
  induction n with
  | zero => decide
  | succ n ih =>
      simp only [countdownTerminals, enclosed, List.length_cons, List.length_append]
      omega

/-- The statement with a countdown is read, for every number of steps. -/
theorem parse_countdown (n : Nat) :
    Statement.parse (countdownStatement n) = .ok (.delete ⟨"t", some (countdown n)⟩) := by
  have condition : Grammar.expression.Reads (countdownTerminals n) (countdown n) [.endOfInput] := by
    intro tokens rest spelled follow
    have enough : n < (tokens ++ rest).length := by
      rw [List.length_append]
      have counted := length_countdownTerminals n
      rw [← spelled, List.length_map] at counted
      omega
    refine expressionAt_operand (by decide) ?_ (countdown_reads n ?_ (by decide) ?_) tokens rest
      spelled follow
    · exact stops_of_none (fun _ => rfl) rfl
    · omega
    · nofun
  have whole : onlyStatement.Reads (countdownStatementTerminals n)
      (.delete ⟨"t", some (countdown n)⟩) [.endOfInput] := by
    rw [← List.append_nil (countdownStatementTerminals n)]
    refine .bind (.look (.last ?_)) (.absent (by nofun) (.look (.pure _ _)))
    refine .expect (.expect (.named (.last ?_)))
    exact .accepted (.last condition)
  obtain ⟨tokens, cut, spelled⟩ := exists_ofText (countdownStatement_spells n)
  obtain ⟨front, rest, rfl, written, ended⟩ := List.map_eq_append_iff.mp spelled
  exact Statement.parse_eq_ok cut (whole front rest written ended)

end Grammar

/-- No number bounds the heights of the expressions that are accepted. -/
theorem Statement.height_unbounded :
    ¬ ∀ (text : String) (statement : Statement), parse text = .ok statement →
      ∀ value ∈ statement.expressions, value.height ≤ 1024 := by
  intro bounded
  have low := bounded _ _ (Grammar.parse_countdown 512) _ (List.mem_singleton.mpr rfl)
  rw [Grammar.countdown_height] at low
  omega

/-- A high expression still nests below the limit. -/
theorem Grammar.countdown_nesting :
    Statement.parse (countdownStatement 512) = .ok (.delete ⟨"t", some (countdown 512)⟩) ∧
      (countdown 512).nesting < maxNesting ∧
      (countdown 512).height ≤ maxNesting * ((countdown 512).longestStretch + 1) :=
  ⟨parse_countdown 512,
    Statement.parse_nesting (parse_countdown 512) _ (List.mem_singleton.mpr rfl)⟩

end Relational
