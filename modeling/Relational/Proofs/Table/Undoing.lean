import Relational.Proofs.Table.Run

/-!
# Undoing a series of changes

Updates and deletions are attempted one after another, several of them perhaps on
one row, and those that succeed are recorded.  Replaying the record takes all of
them back: no reversal fails, and nothing tells the table from the one of before.
-/

namespace Relational

namespace Table

/-- An attempt to change a row. -/
inductive Attempt where
  | update (id : RowId) (row : Row)
  | delete (id : RowId)

/-- The row that an attempt brings along is as wide as the table. -/
def Attempt.Wide (width : Nat) : Attempt → Prop
  | .update _ row => row.length = width
  | .delete _ => True

/-- A table with the log of the changes that were made to it. -/
structure Logged where
  table : Table
  log : ChangeLog

namespace Logged

/-- A table to which nothing was done yet. -/
def start (table : Table) : Logged :=
  ⟨table, []⟩

/-- The table after an attempt, which is recorded if it succeeds. -/
def attempt (state : Logged) : Attempt → Logged
  | .update id row =>
    match state.table.update id row with
    | .ok (changed, before) => ⟨changed, .updated id before :: state.log⟩
    | .error _ => state
  | .delete id =>
    match state.table.delete id with
    | .ok (remaining, row) => ⟨remaining, .deleted id row :: state.log⟩
    | .error _ => state

/-- The table after a series of attempts. -/
def attemptAll (state : Logged) (attempts : List Attempt) : Logged :=
  attempts.foldl attempt state

/-- The table after its log was replayed backwards. -/
def rollback (state : Logged) : ChangeLog.Rollback :=
  ChangeLog.rollback state.table state.log

variable {origin : Table} {state : Logged}

/-- The log of a table goes on to record how the table came about. -/
theorem attempt_records (records : ChangeLog.Records origin state.log state.table)
    {step : Attempt} (wide : step.Wide state.table.schema.columns.length) :
    ChangeLog.Records origin (state.attempt step).log (state.attempt step).table := by
  cases step with
  | update id row =>
      rw [attempt]
      cases updated : state.table.update id row with
      | ok result => exact records.updated wide updated
      | error _ => exact records
  | delete id =>
      rw [attempt]
      cases deleted : state.table.delete id with
      | ok result => exact records.deleted deleted
      | error _ => exact records

/-- The log of a sound table records whatever attempts are made. -/
theorem attemptAll_records (sound : origin.Sound)
    (records : ChangeLog.Records origin state.log state.table) {attempts : List Attempt}
    (wide : ∀ step ∈ attempts, step.Wide origin.schema.columns.length) :
    ChangeLog.Records origin (state.attemptAll attempts).log
      (state.attemptAll attempts).table := by
  induction attempts generalizing state with
  | nil => exact records
  | cons step rest ih =>
      obtain ⟨head, tail⟩ := List.forall_mem_cons.mp wide
      rw [← records.schema sound] at head
      exact ih (attempt_records records head) tail

end Logged

/-- Whatever was attempted on a sound table, replaying the log of what succeeded
succeeds too, and leads back to a table that nothing tells from the first one. -/
theorem Sound.attempts_undone {origin : Table} (sound : origin.Sound) (attempts : List Attempt)
    (wide : ∀ step ∈ attempts, step.Wide origin.schema.columns.length) :
    ∃ restored, ((Logged.start origin).attemptAll attempts).rollback = ⟨restored, none⟩ ∧
      restored.Sound ∧ Indistinguishable restored origin := by
  have start : ChangeLog.Records origin (Logged.start origin).log (Logged.start origin).table :=
    .nothing
  have records := Logged.attemptAll_records sound start wide
  obtain ⟨restored, replayed, sound', same⟩ :=
    records.rollback sound (records.sound sound) (SameContent.refl _)
  exact ⟨restored, replayed, sound', sound'.indistinguishable sound same⟩

/-! ### Readings that are changed and brought back -/

/-- Readings of which one is undefined and one is a negative zero. -/
def measured : Table :=
  (create readings).run
    [.insert [.integer 1, .float Binary64.nan], .insert [.integer 2, .float ⟨0x8000000000000000⟩],
      .insert [.integer 3, .null]]

/-- Changes of the readings: the undefined one is written once more, the negative
zero becomes a positive one and is deleted, and three attempts fail. -/
def disturbances : List Attempt :=
  [.update 1 [.integer 1, .float Binary64.nan], .update 2 [.integer 2, .float ⟨0⟩],
    .update 2 [.integer 4, .null], .delete 2, .update 2 [.integer 2, .null], .delete 7,
    .update 1 [.integer 1, .integer 5], .delete 3]

/-- Five of the eight attempts are recorded, and the rollback brings the readings back bit
for bit. -/
theorem measured_undone : measured.Sound ∧
    (∀ step ∈ disturbances, step.Wide measured.schema.columns.length) ∧
    ((Logged.start measured).attemptAll disturbances).log =
      [.deleted 3 [.integer 3, .null], .updated 1 [.integer 1, .float Binary64.nan],
        .deleted 2 [.integer 2, .float ⟨0⟩],
        .updated 2 [.integer 2, .float ⟨0x8000000000000000⟩],
        .updated 1 [.integer 1, .float Binary64.nan]] ∧
    ∃ restored, ((Logged.start measured).attemptAll disturbances).rollback = ⟨restored, none⟩ ∧
      restored.Sound ∧ Indistinguishable restored measured := by
  have valid : readings.Valid := ⟨by decide, by decide⟩
  have sound : measured.Sound :=
    ((create_sound valid).1.run _ (by simp [Operation.Wide])).1
  have wide : ∀ step ∈ disturbances, step.Wide measured.schema.columns.length := by
    have width : measured.schema.columns.length = 2 := by decide
    rw [width]
    simp [disturbances, Attempt.Wide]
  exact ⟨sound, wide, by decide, sound.attempts_undone disturbances wide⟩

end Table

end Relational
