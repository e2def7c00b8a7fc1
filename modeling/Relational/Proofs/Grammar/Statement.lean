import Relational.Proofs.Grammar
import Relational.Proofs.Grammar.Expression

/-!
# Reading statements

Every statement that the grammar can form is read back from its canonical
spelling.  The clauses of a statement may be missing, so that what follows a
clause is the keyword of any later one or the end of the input; none of these
prolongs what stands before it.
-/

namespace Relational

open Grammar.Parser

namespace Grammar

variable {α β : Type} {after : List Terminal} {terminal : Terminal}

/-- A terminal that prolongs neither an expression nor a list. -/
structure Closes (terminal : Terminal) : Prop where
  stops : Stops 1 terminal
  apart : terminal ≠ .symbol .leftParen
  no_comma : terminal ≠ .symbol .comma

/-- The keywords of the clauses of a query from its condition on, in order. -/
def clauseKeywords : List Keyword :=
  [.«where», .group, .having, .order, .limit, .offset]

/-- What may stand where only clauses with some keywords are still to come. -/
inductive Remaining (keywords : List Keyword) : Terminal → Prop where
  | endOfInput : Remaining keywords .endOfInput
  | keyword {keyword : Keyword} (member : keyword ∈ keywords) :
      Remaining keywords (.keyword keyword)

namespace Remaining

variable {keywords : List Keyword}

/-- A clause in front of the later ones starts with its own word or as they do. -/
theorem clause (later : Remaining keywords (ahead after)) (keyword : Keyword)
    (write : α → List Terminal) (content : Option α) :
    Remaining (keyword :: keywords) (ahead (clause keyword write content ++ after)) := by
  cases content with
  | none =>
      change Remaining _ (ahead after)
      generalize ahead after = terminal at later
      cases later with
      | endOfInput => exact .endOfInput
      | keyword member => exact .keyword (List.mem_cons_of_mem _ member)
  | some value => exact .keyword List.mem_cons_self

/-- A clause in front of others starts with its own word or as they do. -/
theorem before {others : List Terminal} (later : Remaining keywords (ahead (others ++ after)))
    (keyword : Keyword) (write : α → List Terminal) (content : Option α) :
    Remaining (keyword :: keywords)
      (ahead (Grammar.clause keyword write content ++ others ++ after)) := by
  rw [List.append_assoc]
  exact later.clause keyword write content

/-- The word of a clause that is past does not remain. -/
theorem ne_keyword {keyword : Keyword} (remaining : Remaining keywords terminal)
    (past : keyword ∉ keywords) : terminal ≠ .keyword keyword := by
  rintro rfl
  cases remaining with
  | keyword member => exact past member

/-- What remains of the clauses ends an expression. -/
theorem closes (remaining : Remaining keywords terminal) (among : keywords ⊆ clauseKeywords) :
    Closes terminal := by
  cases remaining with
  | endOfInput => exact ⟨stops_of_none (fun _ => rfl) rfl, nofun, nofun⟩
  | keyword member =>
      refine ⟨?_, nofun, nofun⟩
      have listed := among member
      simp only [clauseKeywords, List.mem_cons, List.not_mem_nil, or_false] at listed
      rcases listed with rfl | rfl | rfl | rfl | rfl | rfl <;>
        exact stops_of_none (fun _ => rfl) rfl

end Remaining

theorem closes_rightParen : Closes (.symbol .rightParen) :=
  ⟨stops_of_none (fun _ => rfl) rfl, nofun, nofun⟩

/-- An expression is read in front of a comma and in front of what closes a list. -/
theorem listed_reads {value : Expr} {following : List Terminal} (expressible : value.Expressible)
    (levels : 2 * value.height ≤ maxNesting) (closes : Closes (ahead after))
    (ends : ahead following = .symbol .comma ∨ following = after) :
    expression.Reads value.terminals value following := by
  rcases ends with comma | rfl
  · refine expression_reads expressible levels ?_ ?_
    · exact comma ▸ stops_of_none (fun _ => rfl) rfl
    · rw [comma]
      nofun
  · exact expression_reads expressible levels closes.stops closes.apart

/-- An optional clause is read back, whether it is there or not. -/
theorem optional_reads {keyword : Keyword} {content : Parser α} {write : α → List Terminal}
    {value : Option α}
    (reads : ∀ found, value = some found → content.Reads (write found) found after)
    (different : ahead after ≠ .keyword keyword) :
    (optional keyword content).Reads (clause keyword write value) value after := by
  cases value with
  | none => exact .absent different (.pure none after)
  | some found => exact .accepted (.last (reads found rfl))

/-- A condition is read back, whether it is there or not. -/
theorem condition_reads {keyword : Keyword} {value : Option Expr}
    (expressible : ∀ found ∈ value, found.Expressible)
    (levels : ∀ found ∈ value, 2 * found.height ≤ maxNesting) (closes : Closes (ahead after))
    (different : ahead after ≠ .keyword keyword) :
    (condition keyword).Reads (clause keyword Expr.terminals value) value after := by
  refine optional_reads (fun found present => ?_) different
  exact expression_reads (expressible found present) (levels found present) closes.stops
    closes.apart

theorem nameList_reads {names : List String} (some_name : names ≠ [])
    (ends : ahead after ≠ .symbol .comma) : (list name).Reads (nameList names) names after :=
  list_reads ends some_name fun s _ following _ => name_reads s following

/-! ### Queries -/

/-- A label is read back, whether it is there or not. -/
theorem label_reads (chosen : Option String) (unlabelled : ∀ s, ahead after ≠ .name s)
    (different : ahead after ≠ .keyword .as) :
    label.Reads (clause .as (fun s => [.name s]) chosen) chosen after := by
  cases chosen with
  | some s => exact .accepted (.last (name_reads s after))
  | none =>
      change label.Reads [] none after
      refine .absent different (.look ?_)
      rw [List.nil_append]
      generalize ahead after = terminal at unlabelled
      cases terminal with
      | name s => exact absurd rfl (unlabelled s)
      | _ => exact .pure none after

/-- No literal starts with a star. -/
theorem ahead_literal (value : Value) (rest : List Terminal) :
    ahead (value.terminals ++ rest) ≠ .symbol .star := by
  cases value with
  | integer n =>
      rw [Value.terminals]
      split <;> rintro ⟨⟩
  | float x =>
      rw [Value.terminals]
      split <;> rintro ⟨⟩
  | _ => rintro ⟨⟩

/-- No expression starts with the star that stands for all columns. -/
theorem ahead_expression (value : Expr) (rest : List Terminal) :
    ahead (value.terminals ++ rest) ≠ .symbol .star := by
  have operand : ∀ (part : Expr) (behind : List Terminal),
      ahead (part.partTerminals ++ behind ++ rest) ≠ .symbol .star := by
    intro part behind
    rw [List.append_assoc, ahead_partTerminals]
    split <;> rintro ⟨⟩
  cases value with
  | literal value => exact ahead_literal value rest
  | binary op left right => exact operand left _
  | isIn tested items negated =>
      rw [Expr.terminals, List.append_assoc (tested.enclose _)]
      exact operand tested _
  | between tested low high negated =>
      rw [Expr.terminals, List.append_assoc (tested.enclose _)]
      exact operand tested _
  | like tested pattern negated =>
      rw [Expr.terminals, List.append_assoc (tested.enclose _)]
      exact operand tested _
  | isNull tested negated => exact operand tested _
  | unary op operand => cases op <;> rintro ⟨⟩
  | aggregate function argument distinct => cases argument <;> rintro ⟨⟩
  | _ => rintro ⟨⟩

/-- An item of a select list is read back. -/
theorem selectItem_reads {item : SelectItem}
    (expressible : ∀ value ∈ item.expression?, value.Expressible)
    (levels : ∀ value ∈ item.expression?, 2 * value.height ≤ maxNesting)
    (ends : ahead after = .symbol .comma ∨ ahead after = .keyword .«from») :
    selectItem.Reads item.terminals item after := by
  cases item with
  | all => exact .accepted (.pure _ after)
  | expression value chosen =>
      have labelled : label.Reads (clause .as (fun s => [.name s]) chosen) chosen after := by
        apply label_reads <;> rcases ends with ends | ends <;> rw [ends] <;> nofun
      refine .absent ?_ (.bind (expression_reads (expressible value rfl) (levels value rfl) ?_ ?_)
        (.last labelled))
      · rw [SelectItem.terminals, List.append_assoc]
        exact ahead_expression value _
      · cases chosen with
        | some s => exact stops_of_none (fun _ => rfl) rfl
        | none =>
            change Stops 1 (ahead after)
            rcases ends with ends | ends <;> rw [ends] <;> exact stops_of_none (fun _ => rfl) rfl
      · cases chosen with
        | some s => nofun
        | none =>
            change ahead after ≠ _
            rcases ends with ends | ends <;> rw [ends] <;> nofun

/-- A sort criterion is read back. -/
theorem sortItem_reads (item : SortItem) (after : List Terminal) :
    sortItem.Reads item.terminals item after := by
  obtain ⟨column, ascending⟩ := item
  refine .named ?_
  cases ascending with
  | true =>
      refine .absent nofun ?_
      exact .accepted (.pure _ after)
  | false => exact .accepted (.pure _ after)

open Statement in
/-- The parts of a query are read in front of the clauses that follow them. -/
theorem select_reads {query : Select} (formed : (Statement.select query).Formed)
    (expressible : ∀ value ∈ (Statement.select query).expressions, value.Expressible)
    (levels : ∀ value ∈ (Statement.select query).expressions, 2 * value.height ≤ maxNesting) :
    select.Reads (Statement.select query).terminals query [.endOfInput] := by
  obtain ⟨some_item, some_group, some_order, limited, skipped⟩ := formed
  rw [Statement.terminals]
  simp only [List.append_assoc]
  have at_end : Remaining [] (ahead [.endOfInput]) := .endOfInput
  have at_offset := at_end.clause .offset rowCount query.offset
  have at_limit := at_offset.before .limit rowCount query.limit
  have at_order := at_limit.before .order
    (fun items => .keyword .«by» :: separated (items.map SortItem.terminals)) query.orderBy
  have at_having := at_order.before .having Expr.terminals query.having
  have at_group := at_having.before .group (fun names => .keyword .«by» :: nameList names)
    query.groupBy
  refine .expect (.bind (list_reads (by nofun) some_item ?items) (.expect (.named ?clauses)))
  case items =>
    intro item member following ends
    have inside : ∀ value ∈ item.expression?, value ∈ (Statement.select query).expressions := by
      intro value present
      refine List.mem_append_left _ (List.mem_append_left _ ?_)
      exact List.mem_filterMap.mpr ⟨item, member, present⟩
    refine selectItem_reads (fun value present => expressible value (inside value present))
      (fun value present => levels value (inside value present)) ?_
    exact ends.imp_right fun same => congrArg ahead same
  have in_condition : ∀ value ∈ query.condition, value ∈ (Statement.select query).expressions := by
    intro value present
    refine List.mem_append_left _ (List.mem_append_right _ ?_)
    exact Option.mem_toList.mpr present
  have in_having : ∀ value ∈ query.having, value ∈ (Statement.select query).expressions := by
    intro value present
    exact List.mem_append_right _ (Option.mem_toList.mpr present)
  refine .bind (condition_reads
    (fun value present => expressible value (in_condition value present))
    (fun value present => levels value (in_condition value present)) (at_group.closes (by decide))
    (at_group.ne_keyword (by decide))) ?_
  refine .bind (optional_reads (fun names present => .expect (nameList_reads ?_ ?_))
    (at_having.ne_keyword (by decide))) ?_
  · rintro rfl
    exact some_group present
  · exact (at_having.closes (by decide)).no_comma
  refine .bind (condition_reads (fun value present => expressible value (in_having value present))
    (fun value present => levels value (in_having value present)) (at_order.closes (by decide))
    (at_order.ne_keyword (by decide))) ?_
  refine .bind (optional_reads (fun items present => .expect (list_reads ?_ ?_ ?_))
    (at_limit.ne_keyword (by decide))) ?_
  · exact (at_limit.closes (by decide)).no_comma
  · rintro rfl
    exact some_order present
  · exact fun item _ following _ => sortItem_reads item following
  refine .bind (optional_reads (fun n present => natural_reads (limited n present) _)
    (at_offset.ne_keyword (by decide))) ?_
  exact .last (optional_reads (fun n present => natural_reads (skipped n present) _)
    (at_end.ne_keyword (by decide)))

/-! ### Changes of rows -/

/-- An insertion is read back. -/
theorem insert_reads {insertion : Insert} (formed : (Statement.insert insertion).Formed)
    (expressible : ∀ value ∈ insertion.values, value.Expressible)
    (levels : ∀ value ∈ insertion.values, 2 * value.height ≤ maxNesting) (after : List Terminal) :
    insert.Reads (Statement.insert insertion).terminals insertion after := by
  obtain ⟨some_column, some_value⟩ := formed
  rw [Statement.terminals]
  simp only [enclosed, List.cons_append, List.append_assoc, List.nil_append]
  refine .expect (.expect (.named (.expect (.bind (nameList_reads some_column (by rintro ⟨⟩))
    (.expect (.expect (.expect (.bind (list_reads (by rintro ⟨⟩) some_value ?_)
      (.expect (.pure _ after))))))))))
  intro value member following ends
  refine listed_reads (expressible value member) (levels value member) ?_ ends
  exact closes_rightParen

/-- An assignment is read back. -/
theorem assignment_reads {target : String × Expr} {following : List Terminal}
    (expressible : target.2.Expressible) (levels : 2 * target.2.height ≤ maxNesting)
    (closes : Closes (ahead after)) (ends : ahead following = .symbol .comma ∨ following = after) :
    assignment.Reads (.name target.1 :: .symbol .equal :: target.2.terminals) target following :=
  .named (.expect (.last (listed_reads expressible levels closes ends)))

/-- An update is read back. -/
theorem update_reads {change : Update} (formed : (Statement.update change).Formed)
    (expressible : ∀ value ∈ (Statement.update change).expressions, value.Expressible)
    (levels : ∀ value ∈ (Statement.update change).expressions, 2 * value.height ≤ maxNesting) :
    update.Reads (Statement.update change).terminals change [.endOfInput] := by
  have at_end : Remaining [] (ahead [.endOfInput]) := .endOfInput
  have at_condition := at_end.clause .«where» Expr.terminals change.condition
  have closes := at_condition.closes (by decide)
  have in_condition : ∀ value ∈ change.condition,
      value ∈ (Statement.update change).expressions := by
    intro value present
    exact List.mem_append_right _ (Option.mem_toList.mpr present)
  refine .expect (.named (.expect (.bind (list_reads closes.no_comma formed ?_) (.last
    (condition_reads (fun value present => expressible value (in_condition value present))
      (fun value present => levels value (in_condition value present))
      (at_end.closes (by decide)) (at_end.ne_keyword (by decide)))))))
  intro target member following ends
  have inside : target.2 ∈ (Statement.update change).expressions :=
    List.mem_append_left _ (List.mem_map.mpr ⟨target, member, rfl⟩)
  exact assignment_reads (expressible _ inside) (levels _ inside) closes ends

/-- A removal is read back. -/
theorem delete_reads {removal : Delete}
    (expressible : ∀ value ∈ removal.condition, value.Expressible)
    (levels : ∀ value ∈ removal.condition, 2 * value.height ≤ maxNesting) :
    delete.Reads (Statement.delete removal).terminals removal [.endOfInput] := by
  have at_end : Remaining [] (ahead [.endOfInput]) := .endOfInput
  exact .expect (.expect (.named (.last (condition_reads expressible levels
    (at_end.closes (by decide)) (at_end.ne_keyword (by decide))))))

/-! ### Declarations -/

theorem columnType_reads (type : ColumnType) (apart : ahead after ≠ .symbol .leftParen) :
    columnType.Reads [.keyword type.keyword] type after := by
  have sized : typeSize.Reads [] () after := .absent apart (.pure () after)
  cases type <;> exact .look (.advance fun _ => .last sized)

variable {steps : Nat} {keyDeclared : Bool} {declared : Column}

/-- The terminals that end a column's declaration. -/
def endsColumn (terminal : Terminal) : Prop :=
  terminal = .symbol .comma ∨ terminal = .symbol .rightParen

/-- Where a column ends, no option is read. -/
theorem columnOptions_stop (ends : endsColumn (ahead after)) :
    (columnOptions keyDeclared (steps + 1) declared).Reads [] declared after := by
  apply Reads.look
  rw [List.nil_append]
  rcases ends with ends | ends <;> rw [ends] <;> exact .pure declared after

/-- A reference is read back. -/
theorem columnOptions_references {reference : Reference} (fresh : declared.references = none)
    (ends : endsColumn (ahead after)) :
    (columnOptions keyDeclared (steps + 2) declared).Reads
      (.keyword .references :: reference.terminals)
      { declared with references := some reference } after := by
  apply Reads.look
  change Reads (if declared.references.isSome then _ else _) _ _ _
  rw [fresh]
  exact .advance fun _ => .named (.expect (.named (.expect (columnOptions_stop ends))))

/-- The options of a column are read back. -/
theorem columnOptions_reads {column : Column} (ends : endsColumn (ahead after))
    (single : column.primaryKey → keyDeclared = false) :
    (columnOptions keyDeclared 3 ⟨column.name, column.type, false, none⟩).Reads
      ((if column.primaryKey then [.keyword .primary, .keyword .key] else []) ++
        clause .references Reference.terminals column.references) column after := by
  obtain ⟨name, type, primaryKey, references⟩ := column
  have referring : ∀ key, (columnOptions keyDeclared 2 ⟨name, type, key, none⟩).Reads
      (clause .references Reference.terminals references) ⟨name, type, key, references⟩ after := by
    intro key
    cases references with
    | none => exact columnOptions_stop ends
    | some reference => exact columnOptions_references rfl ends
  cases primaryKey with
  | true =>
      rw [single rfl]
      exact .look (.advance fun _ => .expect (single rfl ▸ referring true))
  | false =>
      cases references with
      | none => exact columnOptions_stop ends
      | some reference => exact columnOptions_references rfl ends

/-- The declaration of a column is read back. -/
theorem column_reads {declared : Column} (ends : endsColumn (ahead after))
    (single : declared.primaryKey → keyDeclared = false) :
    (column keyDeclared).Reads declared.terminals declared after := by
  refine .named (.bind (columnType_reads declared.type ?_) (columnOptions_reads ends single))
  cases declared.primaryKey with
  | true => nofun
  | false =>
      cases declared.references with
      | some reference => nofun
      | none =>
          change ahead after ≠ _
          rcases ends with ends | ends <;> rw [ends] <;> nofun

/-- Columns are read if at most one of them is the primary key, counting one that
was declared before. -/
theorem columns_reads {declared : List Column} (ends : ahead after = .symbol .rightParen)
    (some_column : declared ≠ []) (enough : declared.length ≤ steps)
    (single : declared.countP Column.primaryKey + keyDeclared.toNat ≤ 1) :
    (columns steps keyDeclared).Reads (separated (declared.map Column.terminals)) declared
      after := by
  induction declared generalizing steps keyDeclared with
  | nil => exact absurd rfl some_column
  | cons first rest ih =>
      obtain ⟨steps, rfl⟩ : ∃ fewer, steps = fewer + 1 :=
        Nat.exists_eq_add_one.mpr (Nat.lt_of_lt_of_le (Nat.succ_pos _) enough)
      rw [List.countP_cons] at single
      have fresh : first.primaryKey → keyDeclared = false := by
        intro key
        rw [if_pos key] at single
        cases keyDeclared with
        | false => rfl
        | true => simp at single
      cases rest with
      | nil =>
          change (columns (steps + 1) keyDeclared).Reads first.terminals [first] after
          rw [← List.append_nil first.terminals]
          refine .bind (column_reads (.inr ends) fresh) (.absent ?_ (.pure _ after))
          rw [List.nil_append, ends]
          nofun
      | cons next others =>
          refine .bind (column_reads (.inl rfl) fresh) (.accepted (.last (ih (List.cons_ne_nil _ _)
            (Nat.le_of_succ_le_succ enough) ?_)))
          cases key : first.primaryKey with
          | false => simpa [key] using single
          | true =>
              rw [fresh key] at single ⊢
              simpa [key] using single

/-- The declaration of a table is read back. -/
theorem createTable_reads {schema : Schema} (valid : schema.Valid) (bare : schema.indexes = [])
    (after : List Terminal) :
    createTable.Reads (.keyword .table :: .name schema.name ::
      enclosed (separated (schema.columns.map Column.terminals))) schema after := by
  obtain ⟨name, declared, indexes⟩ := schema
  obtain rfl : indexes = [] := bare
  have one := valid.one_key
  have created : Schema.create name declared = .ok ⟨name, declared, []⟩ :=
    Schema.create_eq_ok_iff.mpr ⟨rfl, valid⟩
  have keyed : declared.any Column.primaryKey = true := by
    rw [List.any_eq_true, ← List.countP_pos_iff]
    exact one ▸ Nat.one_pos
  have some_column : declared ≠ [] := by
    rintro rfl
    cases one
  have listed : Parser.Reads (fun tokens => columns (tokens.length + 1) false tokens)
      (separated (declared.map Column.terminals)) declared (.symbol .rightParen :: after) := by
    intro tokens rest spelled follow
    refine columns_reads rfl some_column ?_ ?_ tokens rest spelled follow
    · have counted := length_le_separated (declared.map Column.terminals)
      rw [List.length_map, ← spelled, List.length_map] at counted
      rw [List.length_append]
      omega
    · exact Nat.le_of_eq one
  refine .expect (.named (.expect (.bind listed (.look ?_))))
  rw [keyed]
  refine .expect ?_
  intro tokens rest spelled follow
  rw [List.map_eq_nil_iff.mp spelled, List.nil_append, schemaOf, created]

theorem createIndex_reads (declaration : CreateIndex) (after : List Terminal) :
    createIndex.Reads ([.keyword .index, .name declaration.index, .keyword .on,
      .name declaration.table] ++ enclosed [.name declaration.column]) declaration after :=
  .expect (.named (.expect (.named (.expect (.named (.expect (.pure declaration after)))))))

theorem create_reads_table {schema : Schema} (valid : schema.Valid) (bare : schema.indexes = [])
    (after : List Terminal) :
    create.Reads (Statement.createTable schema).terminals (.createTable schema) after :=
  .expect (.look (.last (createTable_reads valid bare after)))

theorem create_reads_index (declaration : CreateIndex) (after : List Terminal) :
    create.Reads (Statement.createIndex declaration).terminals (.createIndex declaration) after :=
  .expect (.look (.last (createIndex_reads declaration after)))

/-! ### Whole statements -/

/-- Every statement in canonical form is read back. -/
theorem statement_reads {spelled : Statement} (formed : spelled.Formed)
    (expressible : ∀ value ∈ spelled.expressions, value.Expressible)
    (levels : ∀ value ∈ spelled.expressions, 2 * value.height ≤ maxNesting) :
    statement.Reads spelled.terminals spelled [.endOfInput] := by
  cases spelled with
  | select query => exact .look (.last (select_reads formed expressible levels))
  | insert insertion => exact .look (.last (insert_reads formed expressible levels _))
  | update change => exact .look (.last (update_reads formed expressible levels))
  | delete removal =>
      refine .look (.last (delete_reads (fun value present => ?_) (fun value present => ?_)))
      · exact expressible value (Option.mem_toList.mpr present)
      · exact levels value (Option.mem_toList.mpr present)
  | createTable schema => exact .look (create_reads_table formed.1 formed.2 _)
  | createIndex declaration => exact .look (create_reads_index declaration _)
  | dropTable table => exact .look (.expect (.expect (.named (.pure _ _))))
  | showTables => exact .look (.expect (.expect (.pure _ _)))

end Grammar

open Grammar

/-- Every statement that the grammar can form comes back from the tokens of its
canonical spelling, as long as its expressions are no higher than half the limit on
nesting. -/
theorem Statement.ofTokens_terminals {statement : Statement} {tokens : List Token}
    (formed : statement.Formed)
    (expressible : ∀ value ∈ statement.expressions, value.Expressible)
    (levels : ∀ value ∈ statement.expressions, 2 * value.height ≤ maxNesting)
    (spelled : tokens.map Token.terminal = statement.terminals ++ [.endOfInput]) :
    Statement.ofTokens tokens = .ok statement := by
  have whole : onlyStatement.Reads (statement.terminals ++ []) statement [.endOfInput] := by
    refine .bind (statement_reads formed expressible levels) (.absent (by nofun) (.look ?_))
    exact .pure statement _
  obtain ⟨front, rest, rfl, written, ended⟩ := List.map_eq_append_iff.mp spelled
  rw [Statement.ofTokens, whole front rest (written.trans (List.append_nil _).symm) ended]

/-- An interval among the arguments of a function. -/
def earlierDay : Expr :=
  .call .dateSub [.column "taken", .interval (.literal (.integer 2)) .day]

/-- A minus sign that belongs to a number next to one that does not, with the
conjunction of the predicate between them. -/
def outsideRange : Expr :=
  .between (.column "depth") (.literal (.integer (-7))) (.unary .minus (.literal (.integer 2))) true

/-- A query that uses both. -/
def soundings : Statement :=
  .select ⟨[.expression earlierDay (some "since")], "gauge", some outsideRange, none, none,
    some [⟨"since", false⟩], some 3, none⟩

/-- A query with an interval, a negated range and a negative number is read back. -/
theorem soundings_read_back :
    Statement.ofTokens ((soundings.terminals ++ [Terminal.endOfInput]).map (⟨·, "", .start⟩)) =
      .ok soundings := by
  have expressions : soundings.expressions = [earlierDay, outsideRange] := rfl
  apply Statement.ofTokens_terminals
  · simp [soundings, Statement.Formed]
  · rw [expressions, List.forall_mem_cons, List.forall_mem_singleton]
    constructor
    · refine ⟨rfl, ?_, ?_⟩ <;>
        simp only [earlierDay, Expr.nodes, Expr.nodesOfList, List.append_nil, List.cons_append,
          List.nil_append, List.forall_mem_cons, List.not_mem_nil, false_imp_iff, implies_true]
      · exact ⟨rfl, trivial, trivial, (by decide : Int64.minValue < 2), trivial⟩
      · exact ⟨rfl, by rintro _ ⟨⟩, List.forall_mem_singleton.mpr rfl, by rintro _ ⟨⟩, trivial⟩
    · refine ⟨rfl, ?_, ?_⟩ <;>
        simp only [outsideRange, Expr.nodes, List.cons_append, List.nil_append,
          List.forall_mem_cons, List.not_mem_nil, false_imp_iff, implies_true]
      · exact ⟨trivial, trivial, (by decide : Int64.minValue < -7), trivial,
          (by decide : Int64.minValue < 2), trivial⟩
      · have bounds : outsideRange.PlacesIntervals :=
          List.forall_mem_cons.mpr ⟨rfl, List.forall_mem_cons.mpr ⟨rfl,
            List.forall_mem_singleton.mpr rfl⟩⟩
        exact ⟨bounds, by rintro _ ⟨⟩, by rintro _ ⟨⟩, List.forall_mem_singleton.mpr rfl,
          by rintro _ ⟨⟩, trivial⟩
  · rw [expressions]
    decide
  · rw [List.map_map]
    exact List.map_id _

end Relational
