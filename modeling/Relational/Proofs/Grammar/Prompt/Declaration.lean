import Relational.Proofs.Grammar.Prompt.Statement

/-!
# Prompt reading of insertions and declarations

A name behind `INTO`, `TABLE`, `ON` or `REFERENCES` is never that of a function, even
where a parenthesis follows it.  The word of an aggregate function is read there as any
name, and refused one token too late if the parenthesis is to follow.
-/

namespace Relational

namespace Grammar

variable {α : Type} {word : Keyword} {opens ends : Terminal → Prop} {tokens rest : List Token}

/-! ### Names behind the words that introduce them -/

/-- A name with a word in front that introduces it. -/
def introduced (word : Keyword) (next : String → Parser α) : Parser α := do
  expectKeyword word
  let s ← name
  next s

/-- A name with a word in front, and a list that is opened behind it. -/
def opened (word : Keyword) (next : String → Parser α) : Parser α :=
  introduced word fun s => do
    expectSymbol .leftParen
    next s

/-- A token that is read as a name in front of others.  Only the word of an aggregate
function is no name in front of a parenthesis. -/
structure ReadsName (token : Token) (s : String) (rest : List Token) : Prop where
  plain : introducesName token.terminal = false
  apart : ∀ tail, front tail ≠ .symbol .leftParen → name (token :: tail) = .ok (s, tail)
  anywhere : (∃ word, token.terminal = .keyword word ∧ word.isAggregate) ∧
      front rest ≠ .symbol .leftParen ∨
    ∀ tail, name (token :: tail) = .ok (s, tail)

/-- A token that is read as a name is so in front of everything but a parenthesis. -/
theorem ReadsName.again {token : Token} {s : String} {tail : List Token}
    (reads : ReadsName token s rest) (stands : Stands (· ≠ .symbol .leftParen) rest tail) :
    name (token :: tail) = .ok (s, tail) := by
  rcases reads.anywhere with ⟨-, apart⟩ | anywhere
  · apply reads.apart
    rcases stands with different | ⟨same, -⟩
    · exact different
    · rwa [same]
  · exact anywhere tail

/-- What was read as a name is its first token. -/
theorem name_read {s : String} (read : name tokens = .ok (s, rest)) :
    ∃ token, tokens = token :: rest ∧ ReadsName token s rest := by
  cases tokens with
  | nil => cases read
  | cons token tokens =>
      obtain ⟨terminal, lexeme, place⟩ := token
      cases terminal with
      | name t =>
          cases read
          exact ⟨_, rfl, rfl, fun _ _ => rfl, .inr fun _ => rfl⟩
      | keyword word =>
          rw [name_keyword] at read
          split at read
          · rename_i named
            cases read
            obtain ⟨mayBe, apart⟩ := Bool.and_eq_true_iff.mp named
            refine ⟨_, rfl, plain_of_mayBeName mayBe, ?_, ?_⟩
            · intro tail apart
              rw [name_keyword, if_pos]
              rw [mayBe, beq_false_of_ne apart, Bool.and_false]
              rfl
            · by_cases aggregate : word.isAggregate
              · refine .inl ⟨⟨word, rfl, aggregate⟩, ?_⟩
                intro here
                rw [aggregate, here] at apart
                cases apart
              · refine .inr fun tail => ?_
                rw [name_keyword, if_pos]
                rw [mayBe, Bool.eq_false_iff.mpr aggregate]
                rfl
          · cases read
      | _ => cases read

/-- A name is refused at its own place. -/
theorem name_refused {refusal : Refusal} (refused : name tokens = .error refusal) :
    refusal = .unexpected (.terminal (.name "")) tokens := by
  cases tokens with
  | nil =>
      cases refused
      rfl
  | cons token tokens =>
      obtain ⟨terminal, lexeme, place⟩ := token
      cases terminal with
      | name t => cases refused
      | keyword word =>
          rw [name_keyword] at refused
          split at refused
          · cases refused
          · cases refused
            rfl
      | _ =>
          cases refused
          rfl

section

variable {next : String → Parser α}

theorem introduced_cons {introduction : Token} (here : introduction.terminal = .keyword word)
    (tokens : List Token) :
    introduced word next (introduction :: tokens) = (name >>= next) tokens :=
  bind_of_ok (expect_cons here) rfl

/-- Behind the word a name is read promptly if what follows it is. -/
theorem introduced_steady (offers : Offers (fun _ : Nat => next "x") (fun k => k) opens ends)
    (continues : ∀ introduction tokens s rest, introduction.terminal = .keyword word →
      name tokens = .ok (s, rest) →
        PromptAt (introduced word next) (fun _ : Nat => introduced word next) (fun k => k)
          (· = .keyword word) ends (introduction :: tokens)) :
    Steady (introduced word next) (· = .keyword word) ends := by
  have named : Offers (fun _ : Nat => name >>= next) (fun k => k) (fun _ => True) ends :=
    offers.shift ⟨.name "x", "", .start⟩ (fun _ _ _ _ => rfl) (fun _ => Nat.le_succ _) trivial
  have whole : Offers (fun _ : Nat => introduced word next) (fun k => k) (· = .keyword word) ends :=
    named.shift ⟨.keyword word, "", .start⟩ (fun _ tokens _ _ => introduced_cons rfl tokens)
      (fun _ => Nat.le_succ _) rfl
  refine ⟨fun tokens => ?_, whole⟩
  cases tokens with
  | nil => exact .refused rfl whole
  | cons introduction tokens =>
      by_cases here : introduction.terminal = .keyword word
      · cases found : name tokens with
        | ok recognized => exact continues introduction tokens _ _ here found
        | error refusal =>
            cases name_refused found
            apply PromptAt.stuck [introduction]
            · exact (introduced_cons here tokens).trans (bind_of_error found)
            · rfl
            · obtain ⟨extra, outcome, innocent, reads, -⟩ := named
              refine .completes extra outcome innocent ?_ fun tail _ => .inl here
              intro k tail enough ending
              refine (introduced_cons here _).trans (reads k tail ?_ ending)
              exact Nat.lt_of_succ_lt enough
      · exact .refused (bind_of_error (expect_of_ne here)) whole

/-- Behind its word and a name, the rest is read. -/
theorem introduced_read {introduction token : Token} {s : String} {tail : List Token}
    (here : introduction.terminal = .keyword word) (read : name (token :: tail) = .ok (s, tail)) :
    introduced word next (introduction :: token :: tail) = next s tail :=
  (introduced_cons here _).trans (bind_of_ok read rfl)

/-- An introduced name at the end of a statement. -/
theorem named_steady (word : Keyword) (change : String → α) :
    Steady (introduced word fun s => Pure.pure (change s)) (· = .keyword word)
      (· ≠ .symbol .leftParen) := by
  apply introduced_steady
  · exact (Steady.pure (change "x") (· ≠ .symbol .leftParen)).offers
  · intro introduction tokens s rest here read
    obtain ⟨token, rfl, reads⟩ := name_read read
    have nothing := (Steady.pure (change s) (· ≠ .symbol .leftParen)).prompt rest
    apply nothing.behind [introduction, token] (introduced_read here read)
    · exact fun _ tail _ stands => introduced_read here (reads.again stands)
    · exact fun _ => Nat.le_add_right _ _
    · exact .concat [introduction] reads.plain
    · exact fun _ _ => .inl here

/-- Whatever follows the word of an aggregate function, it is no table with a list. -/
theorem opened_aggregate {introduction token : Token} {s : String} {aggregate : Keyword}
    (here : introduction.terminal = .keyword word) (reads : ReadsName token s rest)
    (named : token.terminal = .keyword aggregate) (isAggregate : aggregate.isAggregate)
    (tail : List Token) :
    ∃ wanted rest, opened word next (introduction :: token :: tail) =
      .error (.unexpected wanted rest) := by
  by_cases there : front tail = .symbol .leftParen
  · obtain ⟨terminal, lexeme, place⟩ := token
    cases named
    have refused := name_keyword aggregate lexeme place tail
    rw [isAggregate, there, Bool.true_and, beq_self_eq_true, Bool.not_true,
      Bool.and_false] at refused
    exact ⟨_, _, (introduced_cons here _).trans (bind_of_error refused)⟩
  · exact ⟨_, _, (introduced_read here (reads.apart tail there)).trans
      (bind_of_error (expect_of_ne there))⟩

/-- Where a list is opened behind an introduced name, the word of an aggregate function is
a dead end. -/
theorem opened_steady (introduces : introducesName (.keyword word)) {leads : Terminal → Prop}
    (continues : ∀ s, Steady (next s) leads ends) :
    Steady (opened word next) (· = .keyword word) ends := by
  have enclosed (s : String) : Steady (expectSymbol .leftParen >>= fun _ => next s)
      (· = .symbol .leftParen) ends :=
    .expecting (continues s) rfl
  apply introduced_steady (enclosed "x").offers
  intro introduction tokens s rest here read
  obtain ⟨token, rfl, reads⟩ := name_read read
  by_cases there : front rest = .symbol .leftParen
  · have again (tail : List Token) : name (token :: tail) = .ok (s, tail) := by
      rcases reads.anywhere with ⟨-, apart⟩ | anywhere
      · exact absurd there apart
      · exact anywhere tail
    apply ((enclosed s).prompt rest).behind [introduction, token] (introduced_read here read)
    · exact fun _ tail _ _ => introduced_read here (again tail)
    · exact fun _ => Nat.le_add_right _ _
    · exact .concat [introduction] reads.plain
    · exact fun _ _ => .inl here
  · apply PromptAt.stuck [introduction, token]
    · exact (introduced_read here read).trans (bind_of_error (expect_of_ne there))
    · rfl
    · rcases reads.anywhere with ⟨⟨aggregate, named, isAggregate⟩, -⟩ | anywhere
      · apply Prospect.stuck
        · constructor
          · exact fun _ tail _ => opened_aggregate here reads named isAggregate tail
          · exact fun _ => .inl here
        · have introduces' : introducesName introduction.terminal := by rwa [here]
          have misnamed : Misnamed ([] ++ [introduction, token]) :=
            .table introduces' named isAggregate
          exact .misnamed misnamed
      · obtain ⟨extra, outcome, innocent, reads, -⟩ := (enclosed s).offers
        refine .completes extra outcome innocent ?_ fun tail _ => .inl here
        intro k tail enough ending
        refine (introduced_read here (anywhere _)).trans (reads k tail ?_ ending)
        exact Nat.lt_of_succ_lt (Nat.lt_of_succ_lt enough)

end

/-! ### Insertions -/

/-- Insertions are steady. -/
theorem insert_steady (ends : Terminal → Prop) : Steady insert (· = .keyword .insert) ends := by
  apply Steady.expecting _ rfl
  · exact (· = .keyword .into)
  · apply opened_steady rfl
    intro table
    apply nameList_steady.bind
    · intro columns
      apply Steady.expecting _ rfl
      · exact (· = .keyword .values)
      · apply Steady.expecting _ rfl
        · exact (· = .symbol .leftParen)
        · apply Steady.expecting _ rfl
          · exact StartsOperand
          · apply expressionList_steady.bind
            · exact fun values => Ready.expected _ (Insert.mk table columns values) rfl _ _
            · exact fun _ here => here ▸ ⟨ends_rightParen, nofun⟩
    · rintro _ rfl
      exact ⟨nofun, nofun⟩

/-- Declarations of indexes are steady. -/
theorem createIndex_steady (ends : Terminal → Prop) :
    Steady createIndex (· = .keyword .index) ends := by
  apply Steady.expecting _ rfl
  · exact StartsName
  · apply name_steady.bind
    · intro index
      apply opened_steady rfl
      intro table
      apply name_steady.bind
      · exact fun indexed => Ready.expected _ (CreateIndex.mk index table indexed) rfl _ _
      · rintro _ rfl
        nofun
    · rintro _ rfl
      nofun

/-! ### Columns -/

theorem expect_steady (terminal : Terminal) (plain : introducesName terminal = false)
    (ends : Terminal → Prop) : Steady (expect terminal) (· = terminal) ends := by
  rw [← bind_pure (expect terminal)]
  exact Ready.expected terminal () plain _ ends

/-- Natural numbers are steady. -/
theorem natural_steady (ends : Terminal → Prop) :
    Steady natural (fun first => ∃ n, first = .integer n) ends :=
  (Ready.natural _).weaken (fun _ opening => opening) fun _ _ => trivial

/-- The size of a type, which may be missing, is steady. -/
theorem typeSize_steady :
    Steady typeSize (fun first => first = .symbol .leftParen ∨ first ≠ .symbol .leftParen)
      (· ≠ .symbol .leftParen) := by
  have closed := expect_steady (.symbol .rightParen) rfl (· ≠ .symbol .leftParen)
  have scale : Steady (natural >>= fun _ => expectSymbol .rightParen)
      (fun first => ∃ n, first = .integer n) (· ≠ .symbol .leftParen) :=
    (natural_steady _).bind (fun _ => closed) fun _ ending => ending
  have scaled : Steady (accept (.symbol .comma) >>= fun more =>
        if more then natural >>= fun _ => expectSymbol .rightParen else expectSymbol .rightParen)
      (fun first => first = .symbol .comma ∨ first = .symbol .rightParen)
      (· ≠ .symbol .leftParen) := by
    apply Ready.accepting
    · exact scale.prompt
    · exact closed
    · exact fun _ => Nat.le_succ _
    · rfl
    · exact nofun
    · exact nofun
  apply Ready.accepting
  · exact ((natural_steady _).bind (fun _ => scaled) fun _ ending => ending).prompt
  · exact Steady.pure () _
  · exact fun _ => Nat.le_succ _
  · rfl
  · exact nofun
  · exact fun different => different rfl

/-- The column type that a terminal names. -/
def namedType? : Terminal → Option ColumnType
  | .keyword .integer => some .integer
  | .keyword .float => some .float
  | .keyword .text => some .text
  | .keyword .boolean => some .boolean
  | _ => none

/-- The type of a column is named by its first terminal. -/
theorem columnType_eq (tokens : List Token) :
    columnType tokens =
      (match namedType? (front tokens) with
      | some type => columnType.consumed type
      | none => Parser.refuse .columnType) tokens := by
  cases tokens with
  | nil => rfl
  | cons token tokens =>
      obtain ⟨terminal, lexeme, place⟩ := token
      cases terminal with
      | keyword word => cases word <;> rfl
      | _ => rfl

/-- Behind the name of a type, its size may follow. -/
theorem columnType_cons {type : ColumnType} {token : Token}
    (named : namedType? token.terminal = some type) (tokens : List Token) :
    columnType (token :: tokens) = (typeSize >>= fun _ => Pure.pure type) tokens := by
  rw [columnType_eq]
  change (match namedType? token.terminal with | some _ => _ | none => _ : Parser ColumnType) _ = _
  rw [named]
  rfl

/-- What names no type is refused where it stands. -/
theorem columnType_refused (unnamed : namedType? (front tokens) = none) :
    columnType tokens = .error (.unexpected .columnType tokens) := by
  rw [columnType_eq, unnamed]
  rfl

/-- The name of a type introduces no name. -/
theorem plain_of_type {terminal : Terminal} {type : ColumnType}
    (named : namedType? terminal = some type) : introducesName terminal = false := by
  unfold namedType? at named
  split at named
  case h_5 => cases named
  all_goals rfl

/-- The types of columns are steady. -/
theorem columnType_steady :
    Steady columnType (fun first => ∃ type, namedType? first = some type)
      (· ≠ .symbol .leftParen) := by
  have sized (type : ColumnType) := typeSize_steady.last fun _ => type
  have offers : Offers (fun _ : Nat => columnType) (fun k => k)
      (fun first => ∃ type, namedType? first = some type) (· ≠ .symbol .leftParen) :=
    (sized .text).offers.shift ⟨.keyword .text, "", .start⟩
      (fun _ tokens _ _ => columnType_cons rfl tokens) (fun _ => Nat.le_succ _) ⟨.text, rfl⟩
  refine ⟨fun tokens => ?_, offers⟩
  cases named : namedType? (front tokens) with
  | none => exact .refused (columnType_refused named) offers
  | some type =>
      cases tokens with
      | nil => cases named
      | cons token tokens =>
          apply ((sized type).prompt tokens).shift (columnType_cons named tokens)
          · exact fun _ tokens' _ _ => columnType_cons named tokens'
          · exact fun _ => Nat.le_succ _
          · exact plain_of_type named
          · exact .inl ⟨type, named⟩

/-- A terminal that ends a column. -/
structure EndsColumn (terminal : Terminal) : Prop where
  apart : terminal ≠ .symbol .leftParen
  no_key : terminal ≠ .keyword .primary
  no_reference : terminal ≠ .keyword .references

/-- How many options may still follow those of a column. -/
def remaining (keyDeclared : Bool) (column : Column) : Nat :=
  (if column.primaryKey || keyDeclared then 0 else 1) +
    if column.references.isSome then 0 else 1

theorem remaining_lt (keyDeclared : Bool) (column : Column) : remaining keyDeclared column < 3 := by
  unfold remaining
  split <;> split <;> decide

section

variable {keyDeclared : Bool} {column : Column} {steps : Nat}

/-- The mark of the primary key, behind its first word, and what follows it. -/
def keyed (keyDeclared : Bool) (steps : Nat) (column : Column) : Parser Column := do
  expectKeyword .key
  columnOptions keyDeclared steps { column with primaryKey := true }

/-- The reference of a column and what follows it. -/
def referring (keyDeclared : Bool) (steps : Nat) (column : Column) : Parser Column :=
  opened .references fun table => do
    let target ← name
    expectSymbol .rightParen
    columnOptions keyDeclared steps { column with references := some ⟨table, target⟩ }

/-- The options of a column are a mark of the key, a reference, or nothing more. -/
theorem columnOptions_eq (keyDeclared : Bool) (steps : Nat) (column : Column)
    (tokens : List Token) :
    columnOptions keyDeclared (steps + 1) column tokens =
      (if front tokens = .keyword .primary then
        if column.primaryKey || keyDeclared then Parser.refuse (.terminal (.symbol .comma))
        else advance >>= fun _ => keyed keyDeclared steps column
      else if front tokens = .keyword .references then
        if column.references.isSome then Parser.refuse (.terminal (.symbol .comma))
        else referring keyDeclared steps column
      else Pure.pure column) tokens := by
  cases tokens with
  | nil => rfl
  | cons token tokens =>
      obtain ⟨terminal, lexeme, place⟩ := token
      cases terminal with
      | keyword word =>
          cases word with
          | references =>
              change (if column.references.isSome then _ else _ : Parser Column) _ =
                (if column.references.isSome then _ else _ : Parser Column) _
              split <;> rfl
          | _ => rfl
      | _ => rfl

/-- Where no option starts, nothing is read. -/
theorem columnOptions_none (no_key : front tokens ≠ .keyword .primary)
    (no_reference : front tokens ≠ .keyword .references) (steps : Nat) :
    columnOptions keyDeclared steps column tokens = .ok (column, tokens) := by
  cases steps with
  | zero => rfl
  | succ steps =>
      rw [columnOptions_eq, if_neg no_key, if_neg no_reference]
      rfl

/-- The options of a column are complete without more. -/
theorem columnOptions_offers (keyDeclared : Bool) (steps : Nat) (column : Column) :
    Offers (fun _ : Nat => columnOptions keyDeclared steps column) (fun k => k)
      (· ≠ .symbol .leftParen) EndsColumn :=
  .done column
    (fun _ _ _ ending => columnOptions_none ending.no_key ending.no_reference steps)
    fun _ ending => ending.apart

section

variable (more : ∀ column, remaining keyDeclared column < steps →
  Steady (columnOptions keyDeclared steps column) (· ≠ .symbol .leftParen) EndsColumn)
  (enough : remaining keyDeclared column < steps + 1)

include more enough in
/-- The options are prompt where the mark of the key starts. -/
theorem key_prompt (here : front tokens = .keyword .primary) :
    PromptAt (columnOptions keyDeclared (steps + 1) column)
      (fun _ : Nat => columnOptions keyDeclared (steps + 1) column) (fun k => k)
      (· ≠ .symbol .leftParen) EndsColumn tokens := by
  by_cases taken : column.primaryKey || keyDeclared
  · apply PromptAt.refused _ (columnOptions_offers keyDeclared (steps + 1) column)
    · exact .terminal (.symbol .comma)
    · rw [columnOptions_eq, if_pos here, if_pos taken]
      rfl
  · have fewer : remaining keyDeclared { column with primaryKey := true } < steps := by
      rw [remaining, if_neg taken] at enough
      rw [remaining, Bool.true_or, if_pos rfl]
      change 0 + (if column.references.isSome then 0 else 1) < steps
      omega
    have marked : Steady (keyed keyDeclared steps column) (· = .keyword .key) EndsColumn :=
      .expecting (more _ fewer) rfl
    cases tokens with
    | nil => cases here
    | cons token tokens =>
        have again : ∀ {token : Token} {tokens}, token.terminal = .keyword .primary →
            columnOptions keyDeclared (steps + 1) column (token :: tokens) =
              keyed keyDeclared steps column tokens := by
          intro token tokens here
          rw [columnOptions_eq]
          change (if token.terminal = .keyword .primary then _ else _ : Parser Column) _ = _
          rw [if_pos here, if_neg taken]
          rfl
        apply (marked.prompt tokens).shift (again here) (fun _ _ _ _ => again here)
        · exact fun _ => Nat.le_succ _
        · exact congrArg introducesName here
        · refine .inr fun negative => ?_
          cases here.symm.trans negative

include more enough in
/-- The options are prompt where a reference starts. -/
theorem reference_prompt (here : front tokens = .keyword .references) :
    PromptAt (columnOptions keyDeclared (steps + 1) column)
      (fun _ : Nat => columnOptions keyDeclared (steps + 1) column) (fun k => k)
      (· ≠ .symbol .leftParen) EndsColumn tokens := by
  have no_key : ∀ {tokens : List Token}, front tokens = .keyword .references →
      front tokens ≠ .keyword .primary := by
    rintro tokens here
    rw [here]
    nofun
  by_cases taken : column.references.isSome
  · apply PromptAt.refused _ (columnOptions_offers keyDeclared (steps + 1) column)
    · exact .terminal (.symbol .comma)
    · rw [columnOptions_eq, if_neg (no_key here), if_pos here, if_pos taken]
      rfl
  · have again : ∀ {tokens}, front tokens = .keyword .references →
        columnOptions keyDeclared (steps + 1) column tokens =
          referring keyDeclared steps column tokens := by
      intro tokens here
      rw [columnOptions_eq, if_neg (no_key here), if_pos here, if_neg taken]
    have referred : Steady (referring keyDeclared steps column) (· = .keyword .references)
        EndsColumn := by
      apply opened_steady rfl
      intro table
      apply name_steady.bind
      · intro target
        apply Steady.expecting _ rfl
        · exact (· ≠ .symbol .leftParen)
        · apply more
          rw [remaining, if_neg taken] at enough
          exact Nat.lt_of_succ_lt_succ enough
      · rintro _ rfl
        nofun
    apply (referred.prompt tokens).congr (again here)
    · intro _ tokens' _ stands
      rcases stands with opening | ⟨same, -⟩
      · exact again opening
      · exact again (same.trans here)
    · rintro _ rfl
      nofun

end

/-- The options of a column are steady, with steps enough for those that may follow. -/
theorem columnOptions_steady (enough : remaining keyDeclared column < steps) :
    Steady (columnOptions keyDeclared steps column) (· ≠ .symbol .leftParen) EndsColumn := by
  induction steps generalizing column with
  | zero => exact absurd enough (Nat.not_lt_zero _)
  | succ steps ih =>
      refine ⟨fun tokens => ?_, columnOptions_offers keyDeclared (steps + 1) column⟩
      by_cases key : front tokens = .keyword .primary
      · exact key_prompt (fun _ => ih) enough key
      · by_cases reference : front tokens = .keyword .references
        · exact reference_prompt (fun _ => ih) enough reference
        · apply PromptAt.done (columnOptions_none key reference (steps + 1))
          · intro _ tail _ stands
            rcases stands with ending | ⟨same, -⟩
            · exact columnOptions_none ending.no_key ending.no_reference (steps + 1)
            · rw [← same] at key reference
              exact columnOptions_none key reference (steps + 1)
          · exact fun _ ending => ending.apart

/-- Declarations of columns are steady. -/
theorem column_steady (keyDeclared : Bool) :
    Steady (Grammar.column keyDeclared) StartsName EndsColumn := by
  apply name_steady.bind
  · intro declared
    apply columnType_steady.bind
    · intro type
      apply columnOptions_steady
      exact remaining_lt keyDeclared _
    · exact fun _ different => different
  · rintro terminal ⟨type, named⟩ rfl
    cases named

/-- Behind a declared key, no other column is marked as the key. -/
theorem columnOptions_unmarked (unmarked : column.primaryKey = false) :
    (columnOptions true steps column).Yields fun result => result.primaryKey = false := by
  induction steps generalizing column with
  | zero => exact .pure unmarked
  | succ steps ih =>
      intro tokens result rest read
      rw [columnOptions_eq, Bool.or_true, if_pos rfl] at read
      split_ifs at read
      · cases read
      · cases read
      · have more : (referring true steps column).Yields fun result => result.primaryKey = false :=
          .after fun _ => .after fun _ => .after fun _ => .after fun _ => .after fun _ =>
            ih unmarked
        exact more tokens result rest read
      · cases read
        exact unmarked

/-- No second column is marked as the primary key. -/
theorem column_unmarked : (Grammar.column true).Yields fun result => result.primaryKey = false :=
  .after fun _ => .after fun _ => columnOptions_unmarked rfl

end

end Grammar

end Relational
