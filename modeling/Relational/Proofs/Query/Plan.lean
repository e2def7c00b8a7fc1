import Relational.Proofs.Expr.Condition
import Relational.Proofs.Statement.Typing
import Relational.Proofs.Table.Sound
import Relational.Query.Result

/-!
# Plans do not change answers

A plan chooses the candidates on which a condition is evaluated.  An index gives
as candidates the rows whose cell has the key of a literal that a conjunct asks
the column to equal.  Every row that meets the condition is among them, so that
the rows found are the same whatever the plan: those of the whole table that
meet the condition.
-/

namespace Relational

/-! ### Evaluating a condition on rows -/

namespace Row

/-- Whether a row meets a condition; without a condition every row does. -/
def meets (now : DateTime) (schema : Schema) (row : Row) : Option Expr → Bool
  | none => true
  | some condition => condition.isMet (Scope.ofRow now schema row) = .ok true

/-- A condition can be evaluated on a row, whatever comes out. -/
def Decides (now : DateTime) (schema : Schema) (row : Row) : Option Expr → Prop
  | none => True
  | some condition => ∃ met, condition.isMet (Scope.ofRow now schema row) = .ok met

end Row

namespace Table

variable {now : DateTime} {table : Table} {condition : Option Expr}
  {found : List (RowId × Row)}

/-- Filtering succeeds exactly if each row decides the condition, and leaves those that meet
it. -/
theorem filterRows_eq_ok_iff {schema : Schema} {expression : Expr}
    {entries : List (RowId × Row)} :
    filterRows now schema expression entries = .ok found ↔
      (∀ entry ∈ entries, Row.Decides now schema entry.2 (some expression)) ∧
        found = entries.filter fun entry => Row.meets now schema entry.2 (some expression) := by
  induction entries generalizing found with
  | nil => simp [filterRows, eq_comm]
  | cons entry rest ih =>
      rw [filterRows, List.forall_mem_cons, List.filter_cons]
      constructor
      · intro filtered
        obtain ⟨met, decided, filtered⟩ := bind_eq_ok.mp filtered
        obtain ⟨others, filtered, result⟩ := bind_eq_ok.mp filtered
        obtain ⟨decides, rfl⟩ := ih.mp filtered
        refine ⟨⟨⟨met, decided⟩, decides⟩, ?_⟩
        rw [← pure_eq_ok.mp result]
        cases met <;> simp [Row.meets, decided]
      · rintro ⟨⟨⟨met, decided⟩, decides⟩, rfl⟩
        refine bind_eq_ok.mpr ⟨met, decided, bind_eq_ok.mpr ⟨_, ih.mpr ⟨decides, rfl⟩, ?_⟩⟩
        rw [pure_eq_ok]
        cases met <;> simp [Row.meets, decided]

/-- The rows found are the candidates that meet the condition, provided that it
can be evaluated on every candidate. -/
theorem matchingRows_eq_ok_iff : table.matchingRows now condition = .ok found ↔
    (∀ entry ∈ (Plan.choose table condition).access.candidates table,
      Row.Decides now table.schema entry.2 condition) ∧
      found = ((Plan.choose table condition).access.candidates table).filter
        fun entry => Row.meets now table.schema entry.2 condition := by
  unfold matchingRows
  cases condition with
  | none => simp [Row.Decides, Row.meets, eq_comm]
  | some expression => exact filterRows_eq_ok_iff

/-! ### Candidates -/

/-- A look-up gives the rows whose cell in the column has the key of the value, in their
order. -/
theorem lookup?_sublist (sound : table.Sound) {column : String} {value : Value}
    (looked : table.lookup? column value = some found) : found.Sublist table.rows ∧
      ∃ position, table.schema.position? column = some position ∧
        found = table.rows.filter fun entry => entry.2.isUnder position value := by
  obtain ⟨index, indexed, rfl⟩ := Option.map_eq_some_iff.mp looked
  obtain ⟨member, rfl⟩ := Sound.mem_of_indexOn? indexed
  have entries : ((index.lookup value).filterMap fun id =>
      (table.row? id).map fun row => (id, row)) =
        table.rows.filter fun entry => entry.2.isUnder index.position value := by
    rw [(sound.reflects index member).lookup_eq sound.ascending, List.filterMap_map]
    refine (List.filterMap_congr fun entry chosen => ?_).trans (List.filterMap_some)
    change (table.row? entry.1).map (fun row => (entry.1, row)) = some entry
    rw [row?_eq_viewOf, sound.viewOf_of_mem (List.mem_filter.mp chosen).1]
    rfl
  rw [entries]
  exact ⟨List.filter_sublist, index.position, sound.positions index member, rfl⟩

end Table

/-- An access that a condition allows: all rows, or the index on a column that a
conjunct of the condition equates with a literal. -/
def Access.Allowed (condition : Option Expr) : Access → Prop
  | .allRows => True
  | .byIndex column value => ∃ expression, condition = some expression ∧
      ∃ term ∈ expression.conjuncts, term.equality? = some (column, value)

namespace Plan

variable {table : Table} {condition : Option Expr}

/-- The cheapest plan is one of the plans. -/
theorem mem_of_cheapest? {plans : List Plan} {plan : Plan}
    (chosen : cheapest? plans = some plan) : plan ∈ plans := by
  induction plans generalizing plan with
  | nil => cases chosen
  | cons first rest ih =>
      rw [cheapest?] at chosen
      split at chosen
      · cases chosen
        exact List.mem_cons_self
      · rename_i other cheaper
        split at chosen <;> cases chosen
        · exact List.mem_cons_of_mem _ (ih cheaper)
        · exact List.mem_cons_self

/-- The chosen access is one that the condition allows. -/
theorem choose_allowed : (choose table condition).access.Allowed condition := by
  cases condition with
  | none => trivial
  | some expression =>
      rw [choose]
      cases chosen : cheapest? (probes table expression) with
      | none => trivial
      | some plan =>
          obtain ⟨⟨column, value⟩, asked, probed⟩ :=
            List.mem_filterMap.mp (mem_of_cheapest? chosen)
          obtain ⟨term, member, equates⟩ := List.mem_filterMap.mp asked
          obtain ⟨statistics, -, rfl⟩ := Option.map_eq_some_iff.mp probed
          exact ⟨expression, rfl, term, member, equates⟩

end Plan

namespace Table

variable {now : DateTime} {table : Table} {condition original : Option Expr} {access : Access}
  {found : List (RowId × Row)}

/-- The candidates of an access are rows of the table in their order. -/
theorem candidates_sublist (sound : table.Sound) (access : Access) :
    (access.candidates table).Sublist table.rows := by
  cases access with
  | allRows => exact List.Sublist.refl _
  | byIndex column value =>
      rw [Access.candidates]
      cases looked : table.lookup? column value with
      | none => exact List.Sublist.refl _
      | some rows => exact (lookup?_sublist sound looked).1

/-- A row that meets a bound condition has the key of each literal that the
condition equates with a column. -/
theorem isUnder_of_meets {row : Row} (typed : Row.Typed table.schema.columns row)
    {expression bound : Expr}
    (binds : Expr.coerceLiterals table.schema expression = .ok bound) {term : Expr}
    (member : term ∈ bound.conjuncts) {column : String} {value : Value} {position : Nat}
    (equates : term.equality? = some (column, value))
    (located : table.schema.position? column = some position)
    (meets : row.meets now table.schema (some bound) = true) :
    row.isUnder position value = true := by
  have met := Expr.isMet_of_mem_conjuncts (of_decide_eq_true meets) term member
  have inside := Schema.position?_lt located
  obtain ⟨declared, stands⟩ : ∃ declared, table.schema.columns[position]? = some declared :=
    ⟨_, List.getElem?_eq_getElem inside⟩
  obtain ⟨cell, holds⟩ : ∃ cell, row[position]? = some cell :=
    ⟨_, List.getElem?_eq_getElem (inside.trans_eq typed.width.symm)⟩
  have found : (Scope.ofRow now table.schema row).column column = .ok cell := by
    simp only [Scope.ofRow, located, Option.bind_some, holds]
  have fits := Expr.fits_of_coerceLiterals binds member equates
    (Schema.column?_of_position? located stands)
  -- Cell and literal are of one type, which is why a cell equal to the literal has its key.
  have same := Expr.key_eq_of_isMet equates met found
    (typed.fits position declared cell stands holds) fits
  obtain ⟨key, filed⟩ : ∃ key, Key.ofValue? value = some key := by
    rw [← Option.isSome_iff_exists, Key.isSome_ofValue?, Expr.not_isNull_of_equality? equates]
    rfl
  rw [Row.isUnder, filed, Option.any_some, decide_eq_true_eq, Row.key?, holds]
  exact same.trans filed

/-- The candidates of every allowed access include all rows that meet the
condition. -/
theorem filter_candidates (sound : table.Sound)
    (typed : ∀ entry ∈ table.rows, Row.Typed table.schema.columns entry.2)
    (binds : Expr.coerceCondition table.schema original = .ok condition)
    (allowed : access.Allowed condition) :
    ((access.candidates table).filter fun entry => entry.2.meets now table.schema condition) =
      table.rows.filter fun entry => entry.2.meets now table.schema condition := by
  cases access with
  | allRows => rfl
  | byIndex column value =>
      rw [Access.candidates]
      cases looked : table.lookup? column value with
      | none => rfl
      | some rows =>
          obtain ⟨-, position, located, rfl⟩ := lookup?_sublist sound looked
          obtain ⟨bound, rfl, term, member, equates⟩ := allowed
          cases original with
          | none => cases binds
          | some expression =>
              obtain ⟨_, binds, result⟩ := bind_eq_ok.mp binds
              cases result
              rw [Option.getD_some, List.filter_filter]
              refine List.filter_congr fun entry member' => ?_
              rw [Bool.and_eq_left_iff_imp]
              exact isUnder_of_meets (typed entry member') binds member equates located

/-- The rows found for a bound condition are those of the table that meet it. -/
theorem matchingRows_eq (sound : table.Sound)
    (typed : ∀ entry ∈ table.rows, Row.Typed table.schema.columns entry.2)
    (binds : Expr.coerceCondition table.schema original = .ok condition)
    (finds : table.matchingRows now condition = .ok found) :
    found = table.rows.filter fun entry => entry.2.meets now table.schema condition := by
  rw [(matchingRows_eq_ok_iff.mp finds).2]
  exact filter_candidates sound typed binds Plan.choose_allowed

/-- Rows are found if the condition can be evaluated on every row. -/
theorem exists_matchingRows (sound : table.Sound)
    (decides : ∀ entry ∈ table.rows, entry.2.Decides now table.schema condition) :
    ∃ found, table.matchingRows now condition = .ok found :=
  ⟨_, matchingRows_eq_ok_iff.mpr ⟨fun entry member =>
    decides entry ((candidates_sublist sound _).subset member), rfl⟩⟩

/-- Only rows of the table are found, in their order. -/
theorem sublist_of_matchingRows (sound : table.Sound)
    (finds : table.matchingRows now condition = .ok found) : found.Sublist table.rows := by
  rw [(matchingRows_eq_ok_iff.mp finds).2]
  exact List.filter_sublist.trans (candidates_sublist sound _)

/-- The rows found are rows of the table. -/
theorem mem_of_matchingRows (sound : table.Sound)
    (finds : table.matchingRows now condition = .ok found) {entry : RowId × Row}
    (member : entry ∈ found) : entry ∈ table.rows :=
  (sublist_of_matchingRows sound finds).subset member

end Table

end Relational
