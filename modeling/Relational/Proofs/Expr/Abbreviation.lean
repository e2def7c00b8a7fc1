import Relational.Proofs.Expr.Condition

/-!
# Predicates as abbreviations

`IN` abbreviates a chain of equations joined by `OR`, `BETWEEN` two comparisons
joined by `AND`, and a negated form what `NOT` makes of the plain one.  Both sides
decide early, though not at the same places: `IN` gives up on a null operand,
`AND` and `OR` on a decided left side.  The search of `IN` is followed along the
chain, whose value up to an item is all that the search remembers of the items
before it.
-/

namespace Relational

namespace Value

variable {left right low high value pattern : Value} {error : Error}

/-- A comparison fails only because its sides cannot be compared. -/
theorem comparison_eq_error (fails : left.comparison right = .error error) :
    error = .typeMismatch (.notComparable left right) := by
  unfold comparison at fails
  split at fails
  · cases fails
  · split at fails
    · cases fails
    · split at fails
      · cases fails
      · exact (Except.error.inj fails).symm

end Value

namespace Expr

/-- A chain of conditions, continued with an equation. -/
def orEquals (operand chain item : Expr) : Expr :=
  .binary .or chain (.binary .equal operand item)

/-- The equations of an operand with the items of a list, joined from the
left. -/
def equalsOneOf (operand first : Expr) (rest : List Expr) : Expr :=
  rest.foldl (orEquals operand) (.binary .equal operand first)

/-- A negated predicate means what `NOT` makes of the plain one, and fails
exactly as that one does. -/
structure Negates (scope : Scope) (negated plain : Expr) : Prop where
  evaluate_eq : negated.evaluate scope = (unary .not plain).evaluate scope
  fails_iff : ∀ error, negated.evaluate scope = .error error ↔ plain.evaluate scope = .error error

variable {scope : Scope} {operand low high pattern item chain first negated plain : Expr}
  {rest items : List Expr} {value : Value} {error : Error} {unknown : Bool}

/-! ### The search among the items -/

/-- What a search has found out as long as no item was equal. -/
def pending (unknown : Bool) : Option Bool :=
  if unknown then none else some false

/-- What a search has found out after one more item. -/
def sought (scope : Scope) (value : Value) (unknown : Bool) (item : Expr) : Except Error Value := do
  let candidate ← item.evaluate scope
  let order ← value.comparison candidate
  return Value.ofTruth (Value.disjunction (pending unknown) (order.map (· == .eq)))

/-- An equation with an item comes to the search for the value in this item. -/
theorem evaluate_equal (evaluates : operand.evaluate scope = .ok value) :
    (binary .equal operand item).evaluate scope = sought scope value false item := by
  rw [evaluate, evaluates]
  · unfold sought
    cases item.evaluate scope with
    | error error => rfl
    | ok candidate =>
        change (value.comparison candidate >>= _) = (value.comparison candidate >>= _)
        congr 1
        funext order
        rcases order with _ | _ | _ | _ <;> rfl
  · nofun
  · nofun

/-- One more equation in a chain comes to the search going on with one more item. -/
theorem evaluate_orEquals (evaluates : operand.evaluate scope = .ok value)
    (found : chain.evaluate scope = .ok (Value.ofTruth (pending unknown))) :
    (orEquals operand chain item).evaluate scope = sought scope value unknown item := by
  have undecided : Value.ofTruth (pending unknown) ≠ .boolean true := by cases unknown <;> nofun
  rw [orEquals, evaluate, found]
  change (if Value.ofTruth (pending unknown) = .boolean true then _ else _) = _
  rw [if_neg undecided, evaluate_equal evaluates]
  unfold sought
  cases item.evaluate scope with
  | error error => rfl
  | ok candidate =>
      change (value.comparison candidate >>= _) >>= _ = (value.comparison candidate >>= _)
      cases value.comparison candidate with
      | error error => rfl
      | ok order => cases unknown <;> rcases order with _ | _ | _ | _ <;> rfl

/-- A chain of equations that fails at its start fails. -/
theorem chain_of_error (fails : chain.evaluate scope = .error error) :
    (rest.foldl (orEquals operand) chain).evaluate scope = .error error := by
  induction rest generalizing chain with
  | nil => exact fails
  | cons item rest ih =>
      apply ih
      rw [orEquals, evaluate, fails]
      rfl

/-- A chain of equations that holds at its start holds, whatever follows. -/
theorem chain_of_true (decided : chain.evaluate scope = .ok (.boolean true)) :
    (rest.foldl (orEquals operand) chain).evaluate scope = .ok (.boolean true) := by
  induction rest generalizing chain with
  | nil => exact decided
  | cons item rest ih =>
      apply ih
      rw [orEquals, evaluate, decided]
      rfl

/-- An equation ends a chain as it ends the search, if what is left does. -/
theorem chain_of_sought (searched : chain.evaluate scope = sought scope value unknown item)
    (continues : ∀ {chain : Expr} {unknown : Bool},
      chain.evaluate scope = .ok (Value.ofTruth (pending unknown)) →
        (rest.foldl (orEquals operand) chain).evaluate scope =
          membership scope value false unknown rest) :
    (rest.foldl (orEquals operand) chain).evaluate scope =
      membership scope value false unknown (item :: rest) := by
  rw [membership]
  unfold sought at searched
  cases evaluated : item.evaluate scope with
  | error error =>
      rw [evaluated] at searched
      exact chain_of_error searched
  | ok candidate =>
      rw [evaluated] at searched
      change _ = (value.comparison candidate >>= _) at searched ⊢
      cases compared : value.comparison candidate with
      | error error =>
          rw [compared] at searched
          exact chain_of_error searched
      | ok order =>
          rw [compared] at searched
          cases order with
          | none =>
              apply continues
              rw [searched]
              cases unknown <;> rfl
          | some order =>
              cases order with
              | eq =>
                  apply chain_of_true
                  rw [searched]
                  cases unknown <;> rfl
              | lt | gt =>
                  apply continues
                  rw [searched]
                  cases unknown <;> rfl

/-- A chain that is not decided yet goes on as the search does. -/
theorem chain_of_pending (evaluates : operand.evaluate scope = .ok value)
    (found : chain.evaluate scope = .ok (Value.ofTruth (pending unknown))) :
    (rest.foldl (orEquals operand) chain).evaluate scope =
      membership scope value false unknown rest := by
  induction rest generalizing chain unknown with
  | nil =>
      rw [List.foldl_nil, found, membership]
      cases unknown <;> rfl
  | cons item rest ih => exact chain_of_sought (evaluate_orEquals evaluates found) ih

/-- The chain of equations is searched like the list. -/
theorem evaluate_equalsOneOf (evaluates : operand.evaluate scope = .ok value) :
    (equalsOneOf operand first rest).evaluate scope =
      membership scope value false false (first :: rest) :=
  chain_of_sought (evaluate_equal evaluates) (chain_of_pending evaluates)

/-- Nothing is known to equal null. -/
theorem membership_null (each : ∀ item ∈ items, ∃ candidate, item.evaluate scope = .ok candidate)
    (unknown : Bool) (undecided : unknown = true ∨ items ≠ []) :
    membership scope .null false unknown items = .ok .null := by
  induction items generalizing unknown with
  | nil =>
      have known : unknown = true := undecided.resolve_right (absurd rfl)
      rw [known]
      rfl
  | cons item rest ih =>
      obtain ⟨⟨candidate, evaluated⟩, others⟩ := List.forall_mem_cons.mp each
      rw [membership, evaluated]
      exact ih others true (.inl rfl)

/-- Once the items have values, only a comparison can fail. -/
theorem membership_eq_error
    (each : ∀ item ∈ items, ∃ candidate, item.evaluate scope = .ok candidate)
    (fails : membership scope value false unknown items = .error error) :
    ∃ candidate, error = .typeMismatch (.notComparable value candidate) := by
  induction items generalizing unknown with
  | nil => cases fails
  | cons item rest ih =>
      obtain ⟨⟨candidate, evaluated⟩, others⟩ := List.forall_mem_cons.mp each
      rw [membership, evaluated] at fails
      change (value.comparison candidate >>= _) = _ at fails
      rcases bind_eq_error.mp fails with compared | ⟨order, -, continued⟩
      · exact ⟨candidate, Value.comparison_eq_error compared⟩
      · split at continued
        · cases continued
        · exact ih others continued
        · exact ih others continued

/-- `IN` and the chain of equations have one value, or fail in one comparison. -/
theorem evaluate_isIn (evaluates : operand.evaluate scope = .ok value)
    (each : ∀ item ∈ first :: rest, ∃ candidate, item.evaluate scope = .ok candidate) :
    (isIn operand (first :: rest) false).evaluate scope =
      membership scope value false false (first :: rest) := by
  rw [evaluate, evaluates]
  change (if value.isNull then _ else _) = _
  by_cases null : value.isNull
  · cases value with
    | null => exact (membership_null each false (.inr (List.cons_ne_nil first rest))).symm
    | _ => contradiction
  · rw [if_neg null]

/-! ### Ranges -/

/-- Where a range has a value, the two comparisons that it abbreviates have the same. -/
theorem evaluate_between (evaluates : (between operand low high false).evaluate scope = .ok value) :
    (binary .and (.binary .greaterEqual operand low) (.binary .lessEqual operand high)).evaluate
      scope = .ok value := by
  rw [evaluate] at evaluates
  obtain ⟨middle, evaluated, evaluates⟩ := bind_eq_ok.mp evaluates
  obtain ⟨lower, evaluated_low, evaluates⟩ := bind_eq_ok.mp evaluates
  obtain ⟨upper, evaluated_high, evaluates⟩ := bind_eq_ok.mp evaluates
  obtain ⟨fromLow, compared, evaluates⟩ := bind_eq_ok.mp evaluates
  obtain ⟨toHigh, compared', evaluates⟩ := bind_eq_ok.mp evaluates
  have above : (binary .greaterEqual operand low).evaluate scope =
      .ok (Value.ofTruth (fromLow.map (· != .lt))) := by
    rw [evaluate, evaluated, evaluated_low]
    · change (middle.comparison lower >>= _) = _
      rw [compared]
      rfl
    · nofun
    · nofun
  have below : (binary .lessEqual operand high).evaluate scope =
      .ok (Value.ofTruth (toHigh.map (· != .gt))) := by
    rw [evaluate, evaluated, evaluated_high]
    · change (middle.comparison upper >>= _) = _
      rw [compared']
      rfl
    · nofun
    · nofun
  rw [evaluate, above, below, ← pure_eq_ok.mp evaluates]
  generalize fromLow.map (· != .lt) = first
  generalize toHigh.map (· != .gt) = second
  rcases first with _ | _ | _ <;> rcases second with _ | _ | _ <;> rfl

/-! ### Negated forms -/

/-- Two computations of one outcome, of which the second is told negated. -/
def Opposite (plain negated : Except Error Value) : Prop :=
  ∃ outcome : Except Error (Option Bool), plain = outcome.map Value.ofTruth ∧
    negated = outcome.map fun found => Value.ofTruth (found.map (!·))

namespace Opposite

theorem ok (found : Option Bool) :
    Opposite (.ok (Value.ofTruth found)) (.ok (Value.ofTruth (found.map (!·)))) :=
  ⟨.ok found, rfl, rfl⟩

/-- An outcome that is told as it is or, if asked for, negated. -/
theorem told (found : Option Bool) : Opposite (.ok (Value.ofTruth (found.map (· != false))))
    (.ok (Value.ofTruth (found.map (· != true)))) := by
  rcases found with _ | _ | _
  · exact .ok none
  · exact .ok (some false)
  · exact .ok (some true)

theorem failed (error : Error) : Opposite (.error error) (.error error) :=
  ⟨.error error, rfl, rfl⟩

/-- What comes first is computed alike. -/
theorem bind {α : Type} (computed : Except Error α) {plain negated : α → Except Error Value}
    (continues : ∀ result, Opposite (plain result) (negated result)) :
    Opposite (computed >>= plain) (computed >>= negated) := by
  cases computed with
  | error error => exact .failed error
  | ok result => exact continues result

/-- A condition with the opposite outcome has the value of the negation. -/
theorem negates (opposite : Opposite (plain.evaluate scope) (negated.evaluate scope)) :
    Negates scope negated plain := by
  obtain ⟨outcome, plain_eq, negated_eq⟩ := opposite
  constructor
  · rw [negated_eq, evaluate, plain_eq]
    cases outcome with
    | error error => rfl
    | ok found => cases found <;> rfl
  · intro error
    rw [negated_eq, plain_eq, map_eq_error, map_eq_error]

end Opposite

/-- Searching for a value and for its absence have opposite outcomes. -/
theorem membership_opposite (scope : Scope) (value : Value) (items : List Expr) (unknown : Bool) :
    Opposite (membership scope value false unknown items)
      (membership scope value true unknown items) := by
  induction items generalizing unknown with
  | nil =>
      cases unknown with
      | false => exact .ok (some false)
      | true => exact .ok none
  | cons item rest ih =>
      refine .bind _ fun candidate => .bind _ fun order => ?_
      split
      · exact .ok (some true)
      · exact ih unknown
      · exact ih true

/-- The negated membership is the negation of the membership. -/
theorem isIn_negates (scope : Scope) (operand : Expr) (items : List Expr) :
    Negates scope (isIn operand items true) (isIn operand items false) := by
  apply Opposite.negates
  refine .bind _ fun value => ?_
  split
  · exact .ok none
  · exact membership_opposite scope value items false

/-- The negated range is the negation of the range. -/
theorem between_negates (scope : Scope) (operand low high : Expr) :
    Negates scope (between operand low high true) (between operand low high false) := by
  apply Opposite.negates
  refine .bind _ fun value => .bind _ fun lower => .bind _ fun upper =>
    .bind _ fun fromLow => .bind _ fun toHigh => ?_
  exact .told (Value.conjunction (fromLow.map (· != .lt)) (toHigh.map (· != .gt)))

/-- The negated likeness is the negation of the likeness. -/
theorem like_negates (scope : Scope) (operand pattern : Expr) :
    Negates scope (like operand pattern true) (like operand pattern false) := by
  apply Opposite.negates
  refine .bind _ fun value => .bind _ fun shape => ?_
  unfold Value.likeness
  split
  · exact .ok none
  · exact .ok none
  · rename_i text _
    exact .told (some ((Pattern.compile text).accepts value.display))
  · exact .failed _

/-- The predicates are abbreviations.  If the operand and the items have values,
`IN` comes to what the chain of equations comes to, and fails in a comparison if
at all; `BETWEEN` comes to what the two comparisons do; and a negated form comes
to what `NOT` makes of the plain one. -/
theorem predicates_abbreviate (scope : Scope) (operand : Expr) :
    (∀ first rest value, operand.evaluate scope = .ok value →
      (∀ item ∈ first :: rest, ∃ candidate, item.evaluate scope = .ok candidate) →
        (isIn operand (first :: rest) false).evaluate scope =
            (equalsOneOf operand first rest).evaluate scope ∧
          ∀ error, (isIn operand (first :: rest) false).evaluate scope = .error error →
            ∃ candidate, error = .typeMismatch (.notComparable value candidate)) ∧
    (∀ low high value, (between operand low high false).evaluate scope = .ok value →
      (binary .and (.binary .greaterEqual operand low) (.binary .lessEqual operand high)).evaluate
        scope = .ok value) ∧
    (∀ items, Negates scope (isIn operand items true) (isIn operand items false)) ∧
    (∀ low high, Negates scope (between operand low high true) (between operand low high false)) ∧
    ∀ pattern, Negates scope (like operand pattern true) (like operand pattern false) := by
  refine ⟨?_, fun low high value => evaluate_between, isIn_negates scope operand,
    between_negates scope operand, like_negates scope operand⟩
  intro first rest value evaluates each
  have searched := evaluate_isIn evaluates each
  constructor
  · rw [searched, evaluate_equalsOneOf evaluates]
  · intro error fails
    exact membership_eq_error each (searched ▸ fails)

/-- A row whose depth is known and whose note is missing. -/
def unnotedDepth : Scope :=
  .ofRow (.startOfDay ⟨2024, 2, 29⟩)
    ⟨"gauge", [⟨"depth", .integer, true, none⟩, ⟨"note", .text, false, none⟩], []⟩
    [.integer 7, .null]

/-- Both searches pass over the missing note and stop at the equal text, before
they come to one that cannot be compared; and the range whose lower end is
missing ends below the depth. -/
theorem unnotedDepth_abbreviated :
    (isIn (.column "depth") [.column "note", .literal (.text "7"), .literal (.text "deep")]
        false).evaluate unnotedDepth =
      (equalsOneOf (.column "depth") (.column "note")
        [.literal (.text "7"), .literal (.text "deep")]).evaluate unnotedDepth ∧
    (between (.column "depth") (.column "note") (.literal (.integer 5)) false).evaluate
      unnotedDepth = .ok (.boolean false) ∧
    (binary .and (.binary .greaterEqual (.column "depth") (.column "note"))
      (.binary .lessEqual (.column "depth") (.literal (.integer 5)))).evaluate unnotedDepth =
        .ok (.boolean false) := by
  obtain ⟨lists, ranges, -⟩ := predicates_abbreviate unnotedDepth (.column "depth")
  have evaluates : (column "depth").evaluate unnotedDepth = .ok (.integer 7) := by decide
  have outside : (between (.column "depth") (.column "note") (.literal (.integer 5)) false).evaluate
      unnotedDepth = .ok (.boolean false) := by decide
  refine ⟨(lists _ _ _ evaluates ?_).1, outside, ranges _ _ _ outside⟩
  rw [List.forall_mem_cons, List.forall_mem_cons, List.forall_mem_singleton]
  exact ⟨⟨.null, by decide⟩, ⟨.text "7", rfl⟩, ⟨.text "deep", rfl⟩⟩

end Expr

end Relational
