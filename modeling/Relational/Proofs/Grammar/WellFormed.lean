import Relational.Proofs.Database.Guard
import Relational.Proofs.Grammar.Expression
import Relational.Proofs.Grammar.Formation

/-!
# Statements are read in good form

Every rule by which the grammar forms an expression makes a well-formed one from
well-formed ones, an interval being formed only where a date subtraction has its second
argument.  So whatever is read from tokens never fails for the form of an expression,
neither where its expressions are evaluated on a row nor where the statement is run.
-/

namespace Relational

namespace Grammar

/-! ### What is read -/

/-- To be well formed is kept by every rule of the grammar. -/
theorem wellFormed_formation : Formation Expr.WellFormed Expr.WellFormed where
  enclosed formed := formed
  column := .column
  literal := .literal
  binary _ _ _ := .binary
  unary _ _ := .unary
  rowCount := .rowCount
  aggregate _ _ _ := .aggregate
  isIn _ _ _ := .isIn
  between _ _ _ _ := .between
  like _ _ _ := .like
  isNull _ _ := .isNull
  call := by
    intro function arguments arity formed
    by_cases plain : ∀ argument ∈ arguments, argument.WellFormed
    · exact .call arity plain
    · push Not at plain
      obtain ⟨argument, member, interval⟩ := plain
      obtain ⟨position, found⟩ := List.mem_iff_getElem?.mp member
      cases formed position argument found with
      | plain holds => exact absurd holds interval
      | interval unit holds =>
          obtain ⟨base, second, rfl⟩ := List.length_eq_two.mp arity
          cases found
          cases formed 0 base rfl with
          | plain first => exact .earlier first holds

/-- Every expression that is read is well formed. -/
theorem expression_wellFormed : Grammar.expression.Yields Expr.WellFormed :=
  expression_yields_of (fun _ => Expr.WellFormed) fun _ _ => wellFormed_formation

end Grammar

namespace Statement

variable {tokens : List Token} {statement : Statement}

/-- A statement that is read from tokens has the form that the grammar asks for, with
well-formed expressions.  None of them fails for its form on a row, and neither does the
statement on a database. -/
theorem ofTokens_wellFormed (read : ofTokens tokens = .ok statement) :
    statement.Formed ∧ (∀ expression ∈ statement.expressions, expression.WellFormed) ∧
      (∀ expression ∈ statement.expressions, ∀ now schema row,
        InForm (expression.evaluate (Scope.ofRow now schema row))) ∧
      ∀ (now : DateTime) (database : Database),
        InForm (database.query now statement) ∧ InForm (database.execute now statement).2 := by
  obtain ⟨rest, recognized⟩ := ofTokens_eq_ok_iff.mp read
  obtain ⟨formed, each⟩ :=
    Grammar.onlyStatement_formedOf Grammar.expression_wellFormed tokens statement rest recognized
  refine ⟨formed, each, fun expression member now schema row => ?_, fun now database => ⟨?_, ?_⟩⟩
  · exact (Scope.ofRow_answers InForm.general now schema row).evaluate InForm.general
      (.inr (each expression member))
  · exact Database.query_failsOnly InForm.general (.inr each) (.inl InForm.positions)
  · exact Database.execute_failsOnly InForm.general (.inr each) (.inl InForm.positions)

/-- How many tanks were filled a day ago, for each level. -/
def fillings : String :=
  "SELECT COUNT(*) FROM tank WHERE filled IN (DATE_SUB(NOW(), INTERVAL 1 DAY)) GROUP BY level"

/-- A query with an interval in its condition is read in good form. -/
theorem fillings_wellFormed : ∃ tokens statement, Token.ofText fillings = .ok tokens ∧
    tokens.getLast?.map Token.terminal = some .endOfInput ∧
    ofTokens tokens = .ok statement ∧ statement.expressions.length = 2 ∧ statement.Formed ∧
      (∀ expression ∈ statement.expressions, expression.WellFormed) ∧
      (∀ expression ∈ statement.expressions, ∀ now schema row,
        InForm (expression.evaluate (Scope.ofRow now schema row))) ∧
      ∀ (now : DateTime) (database : Database),
        InForm (database.query now statement) ∧ InForm (database.execute now statement).2 := by
  have reads : (Token.ofText fillings).toOption.bind (fun tokens =>
      (ofTokens tokens).toOption.map fun statement =>
        (tokens.getLast?.map Token.terminal, statement.expressions.length)) =
      some (some .endOfInput, 2) := by
    decide +kernel
  obtain ⟨tokens, cut, reads⟩ := Option.bind_eq_some_iff.mp reads
  obtain ⟨statement, read, counted⟩ := Option.map_eq_some_iff.mp reads
  obtain ⟨ended, two⟩ := Prod.mk.inj counted
  have read := toOption_eq_some.mp read
  exact ⟨tokens, statement, toOption_eq_some.mp cut, ended, read, two, ofTokens_wellFormed read⟩

end Statement

end Relational
