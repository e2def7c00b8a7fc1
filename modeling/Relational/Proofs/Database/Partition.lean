import Relational.Proofs.Database.Query
import Relational.Proofs.Expr.Coercion

/-!
# A condition, its negation and its being null

A condition is true, false or null of each row.  The queries for the rows of
which it is true, for those of which its negation is, and for those of which it
is null part the rows of a table.  The first two evaluate the condition with
coerced literals, the third one evaluates it as it was written, so that the
three meet only where coercing keeps its value.
-/

namespace Relational

/-! ### Three outcomes -/

namespace Expr

variable {scope : Scope} {condition coerced : Expr} {value : Value} {outcome : Option Bool}

/-- A condition with a value is met exactly if the value counts as true. -/
theorem isMet_iff_of_truth (evaluates : condition.evaluate scope = .ok value)
    (counts : value.truth = .ok outcome) :
    condition.isMet scope = .ok true ↔ outcome = some true := by
  rw [isMet_eq_ok_true_iff]
  constructor
  · rintro ⟨_, evaluates', counts'⟩
    cases evaluates.symm.trans evaluates'
    exact Except.ok.inj (counts.symm.trans counts')
  · rintro rfl
    exact ⟨value, evaluates, counts⟩

/-- The negation of a condition is met exactly if the value counts as false. -/
theorem isMet_not_iff (evaluates : condition.evaluate scope = .ok value)
    (counts : value.truth = .ok outcome) :
    (unary .not condition).isMet scope = .ok true ↔ outcome = some false := by
  have negated : (unary .not condition).evaluate scope =
      .ok (Value.ofTruth (outcome.map (!·))) := by
    change (condition.evaluate scope >>= _) = _
    rw [evaluates]
    change (value.truth >>= _) = _
    rw [counts]
    rfl
  rw [isMet_iff_of_truth negated (Value.truth_ofTruth _)]
  cases outcome <;> simp

/-- The test whether a condition is unknown is met exactly if its value counts as
unknown. -/
theorem isMet_isNull_iff (evaluates : condition.evaluate scope = .ok value)
    (counts : value.truth = .ok outcome) :
    (isNull condition false).isMet scope = .ok true ↔ outcome = none := by
  have tested : (isNull condition false).evaluate scope = .ok (.boolean value.isNull) := by
    change (condition.evaluate scope >>= _) = _
    rw [evaluates]
    exact congrArg (fun b => Except.ok (Value.boolean b)) (Bool.bne_false _)
  rw [isMet_iff_of_truth tested rfl]
  cases value <;> cases counts <;> simp [Value.isNull]

/-- A negation is decided only if its operand has an outcome. -/
theorem exists_outcome_of_isMet_not {met : Bool}
    (decided : (unary .not condition).isMet scope = .ok met) :
    ∃ value outcome, condition.evaluate scope = .ok value ∧ value.truth = .ok outcome := by
  obtain ⟨_, evaluates, -⟩ := bind_eq_ok.mp decided
  obtain ⟨value, evaluates, counts⟩ := bind_eq_ok.mp evaluates
  obtain ⟨outcome, counts, -⟩ := bind_eq_ok.mp counts
  exact ⟨value, outcome, evaluates, counts⟩

/-- Where the test whether a condition is unknown is decided, the condition has a value. -/
theorem exists_value_of_isMet_isNull {met : Bool}
    (decided : (isNull condition false).isMet scope = .ok met) :
    ∃ value, condition.evaluate scope = .ok value := by
  obtain ⟨_, evaluates, -⟩ := bind_eq_ok.mp decided
  obtain ⟨value, evaluates, -⟩ := bind_eq_ok.mp evaluates
  exact ⟨value, evaluates⟩

end Expr

/-! ### Queries for all columns -/

namespace Select

/-- The query for the rows of a table that meet a condition. -/
def allWhere (table : String) (condition : Expr) : Select :=
  ⟨[.all], table, some condition, none, none, none, none, none⟩

variable {now : DateTime} {table : Table} {schema : Schema} {name : String} {condition : Expr}

/-- Binding a query for all rows under a condition coerces the literals of the condition. -/
theorem bind_allWhere {bound : Select} (binds : (allWhere name condition).bind schema = .ok bound) :
    ∃ coerced, Expr.coerceLiterals schema condition = .ok coerced ∧
      bound = allWhere name coerced := by
  obtain ⟨_, -, binds⟩ := bind_eq_ok.mp binds
  obtain ⟨_, -, binds⟩ := bind_eq_ok.mp binds
  obtain ⟨_, binds, result⟩ := bind_eq_ok.mp binds
  obtain ⟨coerced, coerces, wrapped⟩ := bind_eq_ok.mp binds
  cases wrapped
  cases result
  exact ⟨coerced, coerces, rfl⟩

/-- A query for all rows is bound if the columns of its condition are known and it has no
aggregates. -/
theorem bind_allWhere_eq {coerced : Expr}
    (known : condition.checkColumns schema [] = .ok ())
    (plain : condition.rejectAggregates "WHERE" = .ok ())
    (coerces : Expr.coerceLiterals schema condition = .ok coerced) :
    (allWhere name condition).bind schema = .ok (allWhere name coerced) := by
  have columns : (allWhere name condition).checkColumns schema = .ok () :=
    bind_eq_ok.mpr ⟨(), rfl, bind_eq_ok.mpr ⟨(), known, rfl⟩⟩
  have grouping : (allWhere name condition).checkGrouping = .ok () :=
    bind_eq_ok.mpr ⟨(), plain, rfl⟩
  have converted : Expr.coerceCondition schema (some condition) = .ok (some coerced) :=
    bind_eq_ok.mpr ⟨coerced, coerces, rfl⟩
  exact bind_eq_ok.mpr ⟨(), columns, bind_eq_ok.mpr ⟨(), grouping,
    bind_eq_ok.mpr ⟨_, converted, rfl⟩⟩⟩

/-- A query for all rows shows each row as it is. -/
theorem rowOutput_allWhere (row : Row) :
    rowOutput now schema (allWhere name condition) row = .ok ⟨[], row⟩ := by
  change Except.ok (OutputRow.mk [] (row ++ [])) = _
  rw [List.append_nil]

/-- The query shows the rows that it finds, unchanged and in their order. -/
theorem answer_allWhere {shown : List Row}
    (answers : (allWhere name condition).answer now table = .ok shown) :
    ∃ found, table.matchingRows now (some condition) = .ok found ∧
      shown = found.map Prod.snd := by
  obtain ⟨found, finds, answers⟩ := bind_eq_ok.mp answers
  obtain ⟨outputs, projected, result⟩ := bind_eq_ok.mp answers
  have each : found.mapM (fun entry =>
      rowOutput now table.schema (allWhere name condition) entry.2) =
        .ok (found.map fun entry => ⟨[], entry.2⟩) := by
    simp only [rowOutput_allWhere]
    exact List.mapM_pure
  cases each.symm.trans projected
  refine ⟨found, finds, (pure_eq_ok.mp result).symm.trans ?_⟩
  exact List.map_map

end Select

/-! ### Candidates of a single term -/

namespace Table

variable {now : DateTime} {table : Table} {condition : Expr} {found : List (RowId × Row)}

/-- A condition that is a single term and no equality is evaluated on every
row. -/
theorem candidates_of_single (single : condition.conjuncts = [condition])
    (notEquality : condition.equality? = none) :
    (Plan.choose table (some condition)).access.candidates table = table.rows := by
  have allowed : (Plan.choose table (some condition)).access.Allowed (some condition) :=
    Plan.choose_allowed
  cases chosen : (Plan.choose table (some condition)).access with
  | allRows => rfl
  | byIndex column value =>
      rw [chosen] at allowed
      obtain ⟨_, same, term, member, equates⟩ := allowed
      cases same
      rw [single, List.mem_singleton] at member
      rw [member, notEquality] at equates
      cases equates

/-- A condition that is one conjunct and no equation is decided on all rows of the table. -/
theorem matchingRows_of_single (single : condition.conjuncts = [condition])
    (notEquality : condition.equality? = none)
    (finds : table.matchingRows now (some condition) = .ok found) :
    (∀ entry ∈ table.rows, Row.Decides now table.schema entry.2 (some condition)) ∧
      found = table.rows.filter fun entry =>
        Row.meets now table.schema entry.2 (some condition) := by
  have outcome := matchingRows_eq_ok_iff.mp finds
  rwa [candidates_of_single single notEquality] at outcome

/-- Three selections that hold every row of a table once, each in the order of
identities. -/
structure Parted (table : Table) (met unmet unknown : List (RowId × Row)) : Prop where
  complete : (met ++ unmet ++ unknown).Perm table.rows
  distinct : ((met ++ unmet ++ unknown).map Prod.fst).Nodup
  ordered : Ascending met ∧ Ascending unmet ∧ Ascending unknown

/-- Three results that show the rows of a table in that way. -/
def PartedInto (table : Table) (first second third : Outcome) : Prop :=
  ∃ met unmet unknown, table.Parted met unmet unknown ∧
    first = .rows table.schema.columnNames (met.map Prod.snd) ∧
    second = .rows table.schema.columnNames (unmet.map Prod.snd) ∧
    third = .rows table.schema.columnNames (unknown.map Prod.snd)

/-- A list is made up of the items with each of the three outcomes. -/
theorem filter_outcomes_perm {α : Type} (items : List α) (outcome : α → Option Bool) :
    ((items.filter fun item => outcome item = some true) ++
      (items.filter fun item => outcome item = some false) ++
      items.filter fun item => outcome item = none).Perm items := by
  have others := List.filter_append_perm (fun item => decide (outcome item = some false))
    (items.filter fun item => !decide (outcome item = some true))
  have all := List.filter_append_perm (fun item => decide (outcome item = some true)) items
  rw [List.filter_filter, List.filter_filter] at others
  rw [List.append_assoc]
  refine List.Perm.trans (List.Perm.append_left _ ?_) all
  convert others using 3
  all_goals
    funext item
    rcases outcome item with _ | _ | _ <;> rfl

/-- Every row has one outcome, so that the rows of the three outcomes part the
table. -/
theorem Sound.parted (sound : table.Sound) (outcome : RowId × Row → Option Bool) :
    table.Parted (table.rows.filter fun entry => outcome entry = some true)
      (table.rows.filter fun entry => outcome entry = some false)
      (table.rows.filter fun entry => outcome entry = none) := by
  have complete := filter_outcomes_perm table.rows outcome
  constructor
  · exact complete
  · exact (complete.map Prod.fst).nodup_iff.mpr sound.ascending.keys_nodup
  · exact ⟨sound.ascending.filter _, sound.ascending.filter _, sound.ascending.filter _⟩

/-- The columns of a row of a well-typed table hold what their types allow. -/
theorem WellTyped.scope_typed (wellTyped : table.WellTyped) {entry : RowId × Row}
    (member : entry ∈ table.rows) :
    (Scope.ofRow now table.schema entry.2).Typed table.schema := by
  intro name cell declared found known
  obtain ⟨position, located, holds⟩ : ∃ position, table.schema.position? name = some position ∧
      entry.2[position]? = some cell := by
    unfold Scope.ofRow at found
    dsimp only at found
    split at found
    · rename_i value held
      cases found
      exact Option.bind_eq_some_iff.mp held
    · cases found
  rw [Schema.column?, located] at known
  exact (wellTyped.typed entry member).fits position _ cell known holds

end Table

namespace Database

variable {now : DateTime} {database : Database} {name : String} {table : Table} {condition : Expr}
  {shown shown' shown'' : Outcome}

/-- A query for all rows shows the rows that meet its coerced condition. -/
theorem query_allWhere (filed : database.tables.get? name = some table)
    (answers : database.query now (.select (.allWhere name condition)) = .ok shown) :
    ∃ coerced found, Expr.coerceLiterals table.schema condition = .ok coerced ∧
      table.matchingRows now (some coerced) = .ok found ∧
      shown = .rows table.schema.columnNames (found.map Prod.snd) := by
  obtain ⟨_, looked, answers⟩ := bind_eq_ok.mp answers
  cases filed.symm.trans (table_eq_ok_iff.mp looked)
  obtain ⟨_, binds, answers⟩ := bind_eq_ok.mp answers
  obtain ⟨coerced, coerces, rfl⟩ := Select.bind_allWhere binds
  obtain ⟨_, answers, result⟩ := bind_eq_ok.mp answers
  obtain ⟨found, finds, rfl⟩ := Select.answer_allWhere answers
  refine ⟨coerced, found, coerces, finds, (pure_eq_ok.mp result).symm.trans ?_⟩
  exact congrArg (Outcome.rows · _) (List.append_nil _)

/-- A row of which the negation and the null test are decided has an outcome,
which says what of the three is met. -/
theorem exists_outcome {schema : Schema} {row : Row} {coerced : Expr}
    (agree : Agree (condition.evaluate (.ofRow now schema row))
      (coerced.evaluate (.ofRow now schema row)))
    (decides : row.Decides now schema (some (.unary .not coerced)))
    (decides' : row.Decides now schema (some (.isNull condition false))) :
    ∃ outcome : Option Bool, row.meets now schema (some coerced) = (outcome = some true : Bool) ∧
      row.meets now schema (some (.unary .not coerced)) = (outcome = some false : Bool) ∧
      row.meets now schema (some (.isNull condition false)) = (outcome = none : Bool) := by
  obtain ⟨_, decides⟩ := decides
  obtain ⟨_, decides'⟩ := decides'
  obtain ⟨value, outcome, evaluates, counts⟩ := Expr.exists_outcome_of_isMet_not decides
  obtain ⟨value', evaluates'⟩ := Expr.exists_value_of_isMet_isNull decides'
  obtain rfl := agree value' value evaluates' evaluates
  refine ⟨outcome, ?_, ?_, ?_⟩
  · exact decide_eq_decide.mpr (Expr.isMet_iff_of_truth evaluates counts)
  · exact decide_eq_decide.mpr (Expr.isMet_not_iff evaluates counts)
  · exact decide_eq_decide.mpr (Expr.isMet_isNull_iff evaluates' counts)

/-- The answers to the queries for a condition, for its negation and for its
being null. -/
structure Answers (database : Database) (now : DateTime) (name : String) (condition : Expr)
    (met unmet unknown : Outcome) : Prop where
  met : database.query now (.select (.allWhere name condition)) = .ok met
  unmet : database.query now (.select (.allWhere name (.unary .not condition))) = .ok unmet
  unknown : database.query now (.select (.allWhere name (.isNull condition false))) = .ok unknown

/-- If a condition, its negation and its being null can all be asked of a table,
each row answers to exactly one of the three. -/
theorem Reachable.answers_parted (reachable : database.Reachable)
    (filed : database.tables.get? name = some table)
    (faithful : ∀ entry ∈ table.rows, condition.Faithful (.ofRow now table.schema entry.2))
    (answers : database.Answers now name condition shown shown' shown'') :
    table.PartedInto shown shown' shown'' := by
  have wellTyped := reachable.sound.wellTyped name table filed
  obtain ⟨coerced, met, coerces, finds, rfl⟩ := query_allWhere filed answers.met
  obtain ⟨_, unmet, coerces', finds', rfl⟩ := query_allWhere filed answers.unmet
  obtain ⟨_, unknown, coerces'', finds'', rfl⟩ := query_allWhere filed answers.unknown
  -- Binding reaches the condition below `NOT`, but not below `IS NULL`.
  obtain ⟨_, again, result⟩ := bind_eq_ok.mp coerces'
  cases coerces.symm.trans again
  cases result
  cases coerces''
  have met_eq : met = table.rows.filter fun entry =>
      entry.2.meets now table.schema (some coerced) := by
    have bound : Expr.coerceCondition table.schema (some condition) = .ok (some coerced) :=
      bind_eq_ok.mpr ⟨coerced, coerces, rfl⟩
    exact Table.matchingRows_eq wellTyped.toSound wellTyped.typed bound finds
  obtain ⟨decides, unmet_eq⟩ := Table.matchingRows_of_single rfl rfl finds'
  obtain ⟨decides', unknown_eq⟩ := Table.matchingRows_of_single rfl rfl finds''
  have each : ∀ entry ∈ table.rows, _ := fun entry member =>
    exists_outcome (Expr.coerceLiterals_agree (wellTyped.scope_typed member)
      (faithful entry member) coerces) (decides entry member) (decides' entry member)
  choose! outcome isMet isUnmet isUnknown using each
  rw [List.filter_congr isMet] at met_eq
  rw [List.filter_congr isUnmet] at unmet_eq
  rw [List.filter_congr isUnknown] at unknown_eq
  rw [met_eq, unmet_eq, unknown_eq]
  exact ⟨_, _, _, wellTyped.toSound.parted outcome, rfl, rfl, rfl⟩

/-! ### Where floats skip integers -/

/-- A table with `2 ^ 53`, behind which floats skip every other integer. -/
def tallied : Table :=
  keyedTable ⟨"t", [⟨"id", .integer, true, none⟩, ⟨"n", .integer, false, none⟩,
      ⟨"m", .integer, false, none⟩], []⟩ 4
    [(1, [.integer 1, .integer 9007199254740992, .null]),
      (2, [.integer 2, .integer 9007199254740992, .integer 1]),
      (3, [.integer 3, .integer 5, .integer 1])]

/-- A database of that table. -/
def tally : Database :=
  ⟨"tally", ⟨[("t", tallied)]⟩⟩

/-- Statements that make the table and fill it. -/
def tallying : List Statement :=
  let row (id n : Int64) (m : Value) : Statement :=
    .insert ⟨"t", ["id", "n", "m"],
      [.literal (.integer id), .literal (.integer n), .literal m]⟩
  [.createTable tallied.schema, row 1 9007199254740992 .null,
    row 2 9007199254740992 (.integer 1), row 3 5 (.integer 1)]

/-- The tally is made by its statements. -/
theorem tally_reachable : tally.Reachable := by
  have made : executeAll leapDay (empty "tally") tallying = tally := by decide +kernel
  have valid : ∀ statement ∈ tallying, statement.Valid := by
    have schema : tallied.schema.Valid := ⟨by decide, by decide⟩
    simp [tallying, Statement.Valid, schema]
  rw [← made]
  exact (Reachable.empty "tally").executeAll leapDay valid

/-- The rows with a number that is given as a text, and a one beside it. -/
def spelled (numeral : String) : Expr :=
  .binary .and (.binary .equal (.column "n") (.literal (.text numeral)))
    (.binary .equal (.column "m") (.literal (.integer 1)))

/-- Where the literal denotes a float and an integer, the two are the same number. -/
theorem toInt?_of_denotes {x : Binary64} {k : Int64}
    (denotes : Value.Denotes (.text "9007199254740992") x k) : x.toInt? = some k.toInt := by
  have reads : Decimal.readFloat? (Unicode.trim "9007199254740992") =
      some ⟨0x4340000000000000⟩ := by decide +kernel
  have integral : Value.integerOfText? "9007199254740992" = some 9007199254740992 := by
    decide +kernel
  cases denotes with
  | text reads' integral' =>
      cases reads.symm.trans reads'
      cases integral.symm.trans integral'
      decide +kernel

/-- The literal compares with every cell of the tally as the number that it spells. -/
theorem spelled_faithful : ∀ entry ∈ tallied.rows,
    (spelled "9007199254740992").Faithful (.ofRow leapDay tallied.schema entry.2) := by
  intro entry member name value beside n found
  have listed : (name, value) ∈ [("n", Value.text "9007199254740992"), ("m", .integer 1)] := beside
  rcases List.mem_cons.mp listed with same | listed
  · cases same
    have cells : ∀ entry ∈ tallied.rows, (Scope.ofRow leapDay tallied.schema entry.2).column "n" =
        .ok (.integer 9007199254740992) ∨
        (Scope.ofRow leapDay tallied.schema entry.2).column "n" = .ok (.integer 5) := by
      decide +kernel
    refine Value.faithful_of_exact ?_ fun x k => toInt?_of_denotes
    rcases cells entry member with cell | cell <;> cases cell.symm.trans found <;> decide +kernel
  · cases List.mem_singleton.mp listed
    exact nofun

/-- The rows of the tally are parted by a literal that no float confuses. -/
theorem tally_parted : tally.Reachable ∧ tally.tables.get? "t" = some tallied ∧
    (∀ entry ∈ tallied.rows,
      (spelled "9007199254740992").Faithful (.ofRow leapDay tallied.schema entry.2)) ∧
    ∃ met unmet unknown,
      tally.Answers leapDay "t" (spelled "9007199254740992") met unmet unknown ∧
      tallied.PartedInto met unmet unknown := by
  have filed : tally.tables.get? "t" = some tallied := by decide +kernel
  have answers : tally.Answers leapDay "t" (spelled "9007199254740992")
      (.rows ["id", "n", "m"] [[.integer 2, .integer 9007199254740992, .integer 1]])
      (.rows ["id", "n", "m"] [[.integer 3, .integer 5, .integer 1]])
      (.rows ["id", "n", "m"] [[.integer 1, .integer 9007199254740992, .null]]) :=
    ⟨by decide +kernel, by decide +kernel, by decide +kernel⟩
  exact ⟨tally_reachable, filed, spelled_faithful, _, _, _, answers,
    tally_reachable.answers_parted filed spelled_faithful answers⟩

/-- The numeral of the next integer is that integer for the column, but the
float `2 ^ 53` for a comparison that binding does not reach. -/
theorem tally_overlapping : tally.Reachable ∧ tally.tables.get? "t" = some tallied ∧
    ∃ met unmet unknown,
      tally.Answers leapDay "t" (spelled "9007199254740993") met unmet unknown ∧
      ¬ tallied.PartedInto met unmet unknown := by
  have answers : tally.Answers leapDay "t" (spelled "9007199254740993")
      (.rows ["id", "n", "m"] []) (.rows ["id", "n", "m"] (tallied.rows.map Prod.snd))
      (.rows ["id", "n", "m"] [[.integer 1, .integer 9007199254740992, .null]]) :=
    ⟨by decide +kernel, by decide +kernel, by decide +kernel⟩
  refine ⟨tally_reachable, by decide +kernel, _, _, _, answers, ?_⟩
  rintro ⟨met, unmet, unknown, parted, -, shown, shown'⟩
  have three : 3 = (unmet.map Prod.snd).length := congrArg Outcome.rowCount shown
  have one : 1 = (unknown.map Prod.snd).length := congrArg Outcome.rowCount shown'
  have total : (met ++ unmet ++ unknown).length = 3 := parted.complete.length_eq
  rw [List.length_map] at three one
  rw [List.length_append, List.length_append, ← three, ← one] at total
  omega

end Database

end Relational
