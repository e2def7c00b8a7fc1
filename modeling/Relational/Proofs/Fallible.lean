import Mathlib.Data.List.Forall2

/-!
# Successful computations

A computation that succeeded went through every step of it.  These lemmas open
a chain of steps at its success, so that what a step guarantees is at hand for
the steps after it, and at its failure, so that it is known which step failed.
-/

namespace Relational

variable {ε α β : Type}

theorem bind_eq_ok {first : Except ε α} {next : α → Except ε β} {result : β} :
    (first >>= next) = .ok result ↔ ∃ value, first = .ok value ∧ next value = .ok result := by
  cases first <;> simp [bind, Except.bind]

theorem pure_eq_ok {value result : α} :
    (pure value : Except ε α) = .ok result ↔ value = result := by
  simp [pure, Except.pure]

theorem map_eq_ok {first : Except ε α} {change : α → β} {result : β} :
    first.map change = .ok result ↔ ∃ value, first = .ok value ∧ change value = result := by
  cases first <;> simp [Except.map]

/-- Two steps fail exactly if the first does, or the second behind it. -/
theorem bind_eq_error {first : Except ε α} {next : α → Except ε β} {error : ε} :
    (first >>= next) = .error error ↔
      first = .error error ∨ ∃ value, first = .ok value ∧ next value = .error error := by
  cases first <;> simp [bind, Except.bind]

theorem map_eq_error {first : Except ε α} {change : α → β} {error : ε} :
    first.map change = .error error ↔ first = .error error := by
  cases first <;> simp [Except.map]

theorem toOption_eq_some {computed : Except ε α} {value : α} :
    computed.toOption = some value ↔ computed = .ok value := by
  cases computed <;> simp [Except.toOption]

/-- A computation for every item of a list succeeds with the list of their
results. -/
theorem mapM_eq_ok {compute : α → Except ε β} {items : List α} {results : List β} :
    items.mapM compute = .ok results ↔
      List.Forall₂ (fun item result => compute item = .ok result) items results := by
  induction items generalizing results with
  | nil =>
      rw [List.mapM_nil, pure_eq_ok, List.forall₂_nil_left_iff]
      exact eq_comm
  | cons item rest ih =>
      rw [List.mapM_cons, bind_eq_ok, List.forall₂_cons_left_iff]
      constructor
      · rintro ⟨first, computed, others⟩
        obtain ⟨following, computed', same⟩ := bind_eq_ok.mp others
        exact ⟨first, following, computed, ih.mp computed', (pure_eq_ok.mp same).symm⟩
      · rintro ⟨first, following, computed, computed', rfl⟩
        exact ⟨first, computed, bind_eq_ok.mpr ⟨following, ih.mpr computed', rfl⟩⟩

/-- A computation that succeeds on every item succeeds on the list. -/
theorem mapM_eq_ok_map {compute : α → Except ε β} {value : α → β} {items : List α}
    (each : ∀ item ∈ items, compute item = .ok (value item)) :
    items.mapM compute = .ok (items.map value) := by
  rw [mapM_eq_ok, List.forall₂_map_right_iff, List.forall₂_same]
  exact each

/-- What corresponds to an item of the one list is in the other list. -/
theorem exists_of_forall₂ {related : α → β → Prop} {items : List α} {others : List β}
    (follow : List.Forall₂ related items others) {item : α} (member : item ∈ items) :
    ∃ other ∈ others, related item other := by
  induction follow with
  | nil => cases member
  | cons first _ ih =>
      rcases List.mem_cons.mp member with rfl | later
      · exact ⟨_, List.mem_cons_self, first⟩
      · obtain ⟨other, among, relates⟩ := ih later
        exact ⟨other, List.mem_cons_of_mem _ among, relates⟩

/-- Every result was computed for some item. -/
theorem exists_of_mem_mapM {compute : α → Except ε β} {items : List α} {results : List β}
    (computes : items.mapM compute = .ok results) {result : β} (member : result ∈ results) :
    ∃ item ∈ items, compute item = .ok result :=
  exists_of_forall₂ (mapM_eq_ok.mp computes).flip member

/-- Checks of all items of a list succeed if each of them does. -/
theorem forM_eq_ok {check : α → Except ε Unit} {items : List α} :
    items.forM check = .ok () ↔ ∀ item ∈ items, check item = .ok () := by
  induction items with
  | nil => exact ⟨fun _ => nofun, fun _ => rfl⟩
  | cons item rest ih =>
      rw [List.forM, bind_eq_ok, List.forall_mem_cons]
      constructor
      · rintro ⟨_, checked, others⟩
        exact ⟨checked, ih.mp others⟩
      · rintro ⟨checked, others⟩
        exact ⟨(), checked, ih.mpr others⟩

/-! ### Errors of one kind -/

/-- A computation that fails does so with an error of some kind. -/
def FailsOnly (kind : ε → Prop) (computed : Except ε α) : Prop :=
  ∀ error, computed = .error error → kind error

namespace FailsOnly

variable {kind kind' : ε → Prop} {first : Except ε α} {next : α → Except ε β}

theorem ok (value : α) : FailsOnly kind (.ok value) :=
  nofun

theorem pure (value : α) : FailsOnly kind (Pure.pure value) :=
  nofun

/-- A failure with an allowed error is allowed. -/
theorem error {error : ε} (allowed : kind error) :
    FailsOnly kind (.error error : Except ε α) := by
  intro raised same
  cases same
  exact allowed

theorem imp (fails : FailsOnly kind first) (implies : ∀ error, kind error → kind' error) :
    FailsOnly kind' first :=
  fun error failed => implies error (fails error failed)

/-- Two steps fail only with some errors if both do. -/
theorem bind (fails : FailsOnly kind first)
    (continues : ∀ value, first = .ok value → FailsOnly kind (next value)) :
    FailsOnly kind (first >>= next) := by
  cases first with
  | error raised =>
      intro error failed
      cases failed
      exact fails raised rfl
  | ok value => exact continues value rfl

theorem map {change : α → β} (fails : FailsOnly kind first) :
    FailsOnly kind (first.map change) :=
  fun error failed => fails error (map_eq_error.mp failed)

/-- A computation for each item fails only as it does for some item. -/
theorem mapM {compute : α → Except ε β} {items : List α}
    (each : ∀ item ∈ items, FailsOnly kind (compute item)) :
    FailsOnly kind (items.mapM compute) := by
  induction items with
  | nil => exact pure []
  | cons item rest ih =>
      rw [List.mapM_cons]
      obtain ⟨head, tail⟩ := List.forall_mem_cons.mp each
      exact head.bind fun value _ => (ih tail).bind fun values _ => pure _

/-- A check of each item fails only as it does for some item. -/
theorem forM {check : α → Except ε Unit} {items : List α}
    (each : ∀ item ∈ items, FailsOnly kind (check item)) :
    FailsOnly kind (items.forM check) := by
  induction items with
  | nil => exact ok ()
  | cons item rest ih =>
      obtain ⟨head, tail⟩ := List.forall_mem_cons.mp each
      exact head.bind fun _ _ => ih tail

end FailsOnly

/-! ### Two computations of one result -/

/-- Two computations have the same result if both succeed. -/
def Agree (first second : Except ε α) : Prop :=
  ∀ result result', first = .ok result → second = .ok result' → result' = result

theorem Agree.refl (first : Except ε α) : Agree first first :=
  fun _ _ computed computed' => Except.ok.inj (computed'.symm.trans computed)

/-- Two chains agree if what follows their first steps does. -/
theorem agree_bind {first first' : Except ε α} {next next' : α → Except ε β}
    (tails : ∀ value value', first = .ok value → first' = .ok value' →
      Agree (next value) (next' value')) : Agree (first >>= next) (first' >>= next') := by
  intro result result' computed computed'
  obtain ⟨value, head, tail⟩ := bind_eq_ok.mp computed
  obtain ⟨value', head', tail'⟩ := bind_eq_ok.mp computed'
  exact tails value value' head head' result result' tail tail'

/-- Steps that agree in turn agree together. -/
theorem Agree.bind {first first' : Except ε α} {next next' : α → Except ε β}
    (heads : Agree first first')
    (tails : ∀ value, first = .ok value → Agree (next value) (next' value)) :
    Agree (first >>= next) (first' >>= next') := by
  refine agree_bind fun value value' head head' => ?_
  rw [heads value value' head head']
  exact tails value head

/-! ### Computations that come out alike -/

/-- Two computations succeed with related results or fail with the same error. -/
inductive Alike {α β : Type} (related : α → β → Prop) : Except ε α → Except ε β → Prop
  | ok {result : α} {result' : β} (relates : related result result') :
      Alike related (.ok result) (.ok result')
  | error (error : ε) : Alike related (.error error) (.error error)

namespace Alike

variable {γ δ : Type} {related : α → β → Prop} {related' : γ → δ → Prop}
  {first : Except ε α} {second : Except ε β}

theorem refl (computed : Except ε α) : Alike Eq computed computed := by
  cases computed with
  | ok result => exact .ok rfl
  | error error => exact .error error

theorem eq {second : Except ε α} (alike : Alike Eq first second) : first = second := by
  cases alike with
  | ok same => rw [same]
  | error error => rfl

/-- Computations that are alike succeed with related results, or fail with one error. -/
theorem ok_or_error (alike : Alike related first second) :
    (∃ result result', first = .ok result ∧ second = .ok result' ∧ related result result') ∨
      ∃ error, first = .error error ∧ second = .error error := by
  cases alike with
  | ok relates => exact .inl ⟨_, _, rfl, rfl, relates⟩
  | error error => exact .inr ⟨error, rfl, rfl⟩

/-- Related results may be related in another way that the results support. -/
theorem imp (alike : Alike related first second) {related' : α → β → Prop}
    (implies : ∀ result result', first = .ok result → second = .ok result' →
      related result result' → related' result result') : Alike related' first second := by
  cases alike with
  | ok relates => exact .ok (implies _ _ rfl rfl relates)
  | error error => exact .error error

/-- Steps that are alike in turn are alike together. -/
theorem bind {next : α → Except ε γ} {next' : β → Except ε δ} (alike : Alike related first second)
    (continues : ∀ result result', related result result' →
      Alike related' (next result) (next' result')) :
    Alike related' (first >>= next) (second >>= next') := by
  cases alike with
  | ok relates => exact continues _ _ relates
  | error error => exact .error error

/-- Computations come out alike if they do so as far as something that is made of
their results tells, and if results of which that is the same are related. -/
theorem of_map_eq (view : α → γ) (view' : β → γ) (same : first.map view = second.map view')
    (relates : ∀ result result', first = .ok result → second = .ok result' →
      view result = view' result' → related result result') : Alike related first second := by
  cases first with
  | ok result =>
      cases second with
      | ok result' => exact .ok (relates result result' rfl rfl (Except.ok.inj same))
      | error error => cases same
  | error error =>
      cases second with
      | ok result' => cases same
      | error error' =>
          cases Except.error.inj same
          exact .error error

/-- Computations for the items of two lists that correspond. -/
theorem mapM {compute : α → Except ε γ} {compute' : β → Except ε δ} {items : List α}
    {change : α → β} {change' : γ → δ}
    (each : ∀ item ∈ items, Alike (fun result result' => result' = change' result)
      (compute item) (compute' (change item))) :
    Alike (fun results results' => results' = results.map change') (items.mapM compute)
      ((items.map change).mapM compute') := by
  induction items with
  | nil => exact .ok rfl
  | cons item rest ih =>
      obtain ⟨head, tail⟩ := List.forall_mem_cons.mp each
      rw [List.map_cons, List.mapM_cons, List.mapM_cons]
      refine head.bind fun result result' same => (ih tail).bind fun results results' same' => ?_
      rw [same, same']
      exact .ok rfl

end Alike

end Relational
