import Relational.Grammar.Statement
import Relational.Proofs.Schema

/-!
# What parsing guarantees

Whatever a parser recognizes has a property if each of its parts sees to it.  For
statements that is one condition for each form.  A declaration of a table is checked
while it is parsed: a statement that was read therefore declares a valid schema if it
declares a table at all.
-/

namespace Relational

namespace Statement

/-- A statement that creates a table declares a valid schema. -/
def Valid : Statement → Prop
  | .createTable schema => schema.Valid
  | _ => True

end Statement

namespace Grammar

namespace Parser

variable {α β : Type}

/-- Whatever a parser recognizes has a property. -/
def Yields (parser : Parser α) (property : α → Prop) : Prop :=
  ∀ tokens value rest, parser tokens = .ok (value, rest) → property value

theorem Yields.of_forall {parser : Parser α} {property : α → Prop}
    (holds : ∀ value, property value) : parser.Yields property :=
  fun _ value _ _ => holds value

theorem Yields.mono {known property : α → Prop} {parser : Parser α} (yields : parser.Yields known)
    (implied : ∀ value, known value → property value) : parser.Yields property :=
  fun tokens value rest recognized => implied value (yields tokens value rest recognized)

/-- Returning a value yields what holds of it. -/
theorem Yields.pure {property : α → Prop} {value : α} (holds : property value) :
    (Pure.pure value : Parser α).Yields property := by
  intro tokens result rest recognized
  cases recognized
  exact holds

/-- A parser that refuses yields every property. -/
theorem refuse_yields (wanted : Wanted) (property : α → Prop) :
    (refuse wanted : Parser α).Yields property := by
  intro tokens value rest recognized
  cases recognized

/-- The last of two parsers decides what both together recognize. -/
theorem Yields.bind {known : α → Prop} {property : β → Prop} {first : Parser α}
    {next : α → Parser β} (yields : first.Yields known)
    (following : ∀ value, known value → (next value).Yields property) :
    (first >>= next).Yields property := by
  intro tokens result rest recognized
  change Grammar.Parser.bind first next tokens = .ok (result, rest) at recognized
  unfold Grammar.Parser.bind at recognized
  split at recognized
  · cases recognized
  · rename_i value between found
    exact following value (yields tokens value between found) between result rest recognized

/-- What comes first may be anything. -/
theorem Yields.after {property : β → Prop} {first : Parser α} {next : α → Parser β}
    (following : ∀ value, (next value).Yields property) : (first >>= next).Yields property :=
  (Yields.of_forall fun _ => trivial).bind fun value _ => following value

end Parser

section

variable {α : Type}

/-- The members of a list have the property of their place. -/
theorem listFrom_yields {property : Nat → α → Prop} {item : Nat → Parser α}
    (each : ∀ position, (item position).Yields (property position)) (steps position : Nat) :
    (listFrom item steps position).Yields fun values =>
      values ≠ [] ∧
        ∀ place value, values[place]? = some value → property (position + place) value := by
  induction steps generalizing position with
  | zero => exact Parser.refuse_yields _ _
  | succ steps ih =>
      refine (each position).bind fun first holds => .after fun more => ?_
      split
      · refine (ih (position + 1)).bind fun others hold => .pure ⟨nofun, fun place value found => ?_⟩
        cases place with
        | zero =>
            cases found
            exact holds
        | succ place =>
            rw [Nat.add_comm place, ← Nat.add_assoc]
            exact hold.2 place value found
      · refine .pure ⟨nofun, fun place value found => ?_⟩
        cases place with
        | zero =>
            cases found
            exact holds
        | succ place => cases found

/-- The members of a list have the property that each item yields. -/
theorem list_yields {property : α → Prop} {item : Parser α} (each : item.Yields property) :
    (list item).Yields fun values => values ≠ [] ∧ ∀ value ∈ values, property value := by
  intro tokens values rest recognized
  obtain ⟨some_value, hold⟩ := listFrom_yields (fun _ => each) _ 0 tokens values rest recognized
  refine ⟨some_value, fun value member => ?_⟩
  obtain ⟨place, found⟩ := List.mem_iff_getElem?.mp member
  exact hold place value found

/-- What follows an optional keyword has the property that it yields. -/
theorem optional_yields {property : α → Prop} {keyword : Keyword} {content : Parser α}
    (yields : content.Yields property) :
    (optional keyword content).Yields fun found => ∀ value ∈ found, property value := by
  refine .after fun present => ?_
  split
  · refine yields.bind fun value holds => .pure ?_
    intro other same
    cases same
    exact holds
  · exact .pure nofun

/-- A terminal is accepted only where it is possible. -/
theorem acceptIf_yields (possible : Bool) (terminal : Terminal) :
    (acceptIf possible terminal).Yields fun accepted => accepted = true → possible = true := by
  intro tokens accepted rest recognized
  cases possible with
  | true => exact fun _ => rfl
  | false =>
      cases recognized
      exact nofun

end

/-- A declaration of columns that is accepted makes a valid schema without indexes. -/
theorem schemaOf_yields (table : String) (columns : List Column) :
    (schemaOf table columns).Yields fun schema => schema.Valid ∧ schema.indexes = [] := by
  intro tokens schema rest recognized
  unfold schemaOf at recognized
  split at recognized
  · rename_i created
    cases recognized
    obtain ⟨rfl, valid⟩ := Schema.create_eq_ok_iff.mp created
    exact ⟨valid, rfl⟩
  · cases recognized

/-- A declaration of a table makes a valid schema without indexes. -/
theorem createTable_yields :
    createTable.Yields fun schema => schema.Valid ∧ schema.indexes = [] := by
  refine .after fun _ => .after fun table => .after fun _ => .after fun declared => .after ?_
  rintro ⟨first, -⟩
  dsimp only
  split
  · exact Parser.refuse_yields _ _
  · exact .after fun _ => schemaOf_yields table declared

section

variable {property : Statement → Prop}

/-- What is to be created is a table or an index. -/
theorem create_yields (tables : createTable.Yields fun schema => property (.createTable schema))
    (indexes : ∀ declaration, property (.createIndex declaration)) : create.Yields property := by
  refine .after fun _ => .after ?_
  rintro ⟨first, -⟩
  dsimp only
  split
  · exact tables.bind fun schema holds => .pure holds
  · exact .after fun declaration => .pure (indexes declaration)
  · exact Parser.refuse_yields _ _

/-- A statement has a property if the parsers of its forms see to it.  The forms
without expressions are left to the property. -/
theorem onlyStatement_yields_of (selects : select.Yields fun query => property (.select query))
    (inserts : insert.Yields fun insertion => property (.insert insertion))
    (updates : update.Yields fun change => property (.update change))
    (deletes : delete.Yields fun removal => property (.delete removal))
    (tables : createTable.Yields fun schema => property (.createTable schema))
    (indexes : ∀ declaration, property (.createIndex declaration))
    (drops : ∀ table, property (.dropTable table)) (shows : property .showTables) :
    onlyStatement.Yields property := by
  have yields : statement.Yields property := by
    refine .after ?_
    rintro ⟨first, -⟩
    dsimp only
    split
    · exact selects.bind fun query holds => .pure holds
    · exact inserts.bind fun insertion holds => .pure holds
    · exact updates.bind fun change holds => .pure holds
    · exact deletes.bind fun removal holds => .pure holds
    · exact create_yields tables indexes
    · exact .after fun _ => .after fun _ => .after fun table => .pure (drops table)
    · exact .after fun _ => .after fun _ => .pure shows
    · exact Parser.refuse_yields _ _
  refine yields.bind fun read holds => .after fun _ => .after ?_
  rintro ⟨first, -⟩
  dsimp only
  split
  · exact .pure holds
  · exact Parser.refuse_yields _ _

end

/-- A statement that is read declares only valid schemas. -/
theorem onlyStatement_yields : onlyStatement.Yields Statement.Valid :=
  onlyStatement_yields_of (.of_forall fun _ => trivial) (.of_forall fun _ => trivial)
    (.of_forall fun _ => trivial) (.of_forall fun _ => trivial)
    (createTable_yields.mono fun _ created => created.1) (fun _ => trivial) (fun _ => trivial)
    trivial

end Grammar

namespace Statement

variable {text : String} {tokens rest : List Token} {statement : Statement}

/-- A statement is read from tokens exactly if the grammar recognizes it at their front. -/
theorem ofTokens_eq_ok_iff : ofTokens tokens = .ok statement ↔
    ∃ rest, Grammar.onlyStatement tokens = .ok (statement, rest) := by
  unfold ofTokens
  split <;> simp_all

/-- A text that is a statement has tokens from which the statement is read. -/
theorem exists_of_parse (parsed : parse text = .ok statement) :
    ∃ tokens rest, Grammar.onlyStatement tokens = .ok (statement, rest) := by
  unfold parse at parsed
  split at parsed
  · cases parsed
  · rename_i tokens spelled
    split at parsed
    · rename_i read formed
      cases parsed
      obtain ⟨rest, recognized⟩ := ofTokens_eq_ok_iff.mp formed
      exact ⟨tokens, rest, recognized⟩
    · cases parsed

/-- A text is the statement that the grammar recognizes in its tokens. -/
theorem parse_eq_ok (spelled : Token.ofText text = .ok tokens)
    (recognized : Grammar.onlyStatement tokens = .ok (statement, rest)) :
    parse text = .ok statement := by
  rw [parse, spelled]
  simp only [ofTokens, recognized]

/-- Every text that spells a statement spells a valid one. -/
theorem parse_valid (parsed : parse text = .ok statement) : statement.Valid := by
  obtain ⟨tokens, rest, recognized⟩ := exists_of_parse parsed
  exact Grammar.onlyStatement_yields tokens statement rest recognized

end Statement

end Relational
