import Relational.Proofs.Statement.Typing
import Relational.Proofs.Table.Run

/-!
# Well-typed tables

A table is well typed if it is sound and all its rows are typed.  Changes with
typed rows keep it so.  A statement that changes several rows applies them one
after another: either all of them succeed, or the table has the content of
before again.
-/

namespace Relational

namespace Table

/-- A sound table whose rows are typed. -/
structure WellTyped (table : Table) : Prop extends table.Sound where
  typed : ∀ entry ∈ table.rows, Row.Typed table.schema.columns entry.2

variable {start table changed : Table} {id : RowId} {row before : Row}

namespace WellTyped

/-- A change that puts at most a typed row under an identity keeps the rows
typed. -/
theorem of_rewrites {content : Option Row} (wellTyped : table.WellTyped) (sound : changed.Sound)
    (rewrites : table.Rewrites id content changed)
    (typed : ∀ row, content = some row → Row.Typed table.schema.columns row) :
    changed.WellTyped := by
  refine ⟨sound, fun entry member => ?_⟩
  rw [rewrites.schema]
  rcases wellTyped.cases_of_mem rewrites entry member with ⟨-, placed⟩ | ⟨-, old⟩
  · exact typed _ placed
  · exact wellTyped.typed entry old

/-- Inserting a row of the right types keeps a table well typed. -/
theorem insert (wellTyped : table.WellTyped) (typed : Row.Typed table.schema.columns row)
    (inserted : table.insert row = .ok (changed, id)) : changed.WellTyped := by
  have sound := wellTyped.toSound.insert inserted
  obtain ⟨rfl, -, -, rfl⟩ := insert_eq_ok inserted
  refine wellTyped.of_rewrites sound
    (wellTyped.place_rewrites wellTyped.viewOf_nextId row _) ?_
  rintro _ ⟨⟩
  exact typed

/-- Updating to a row of the right types keeps a table well typed. -/
theorem update (wellTyped : table.WellTyped) (typed : Row.Typed table.schema.columns row)
    (updated : table.update id row = .ok (changed, before)) : changed.WellTyped := by
  refine wellTyped.of_rewrites (wellTyped.toSound.update typed.width updated)
    (wellTyped.update_rewrites typed.width updated) ?_
  rintro _ ⟨⟩
  exact typed

theorem delete (wellTyped : table.WellTyped) (deleted : table.delete id = .ok (changed, row)) :
    changed.WellTyped :=
  wellTyped.of_rewrites (wellTyped.toSound.delete deleted) (wellTyped.delete_rewrites deleted)
    fun _ none => nomatch none

/-- Creating an index keeps a table well typed. -/
theorem createIndex {declared : IndexDeclaration} (wellTyped : table.WellTyped)
    (extended : table.createIndex declared = .ok changed) : changed.WellTyped := by
  refine ⟨wellTyped.toSound.createIndex extended, ?_⟩
  obtain ⟨-, -, schema, rows, -⟩ := createIndex_eq_ok extended
  rw [rows, schema]
  exact wellTyped.typed

/-- Rows are typed as far as the content of a table is that of a well-typed
one. -/
theorem of_sameContent (wellTyped : start.WellTyped) (sound : table.Sound)
    (same : SameContent table start) : table.WellTyped := by
  refine ⟨sound, ?_⟩
  rw [same.rows, same.schema]
  exact wellTyped.typed

end WellTyped

/-- A new table has no rows. -/
theorem create_rows (schema : Schema) : (create schema).rows = [] := by
  have kept : ∀ (declarations : List IndexDeclaration) (table : Table),
      (table.run (declarations.map Operation.createIndex)).rows = table.rows := by
    intro declarations
    induction declarations with
    | nil => exact fun _ => rfl
    | cons declared rest ih =>
        intro table
        refine (ih _).trans ?_
        rw [perform]
        cases extended : table.createIndex declared with
        | ok changed => exact (createIndex_eq_ok extended).2.2.2.1
        | error _ => rfl
  rw [create_eq_run, kept]
  rfl

/-- A new table is well typed. -/
theorem create_wellTyped {schema : Schema} (valid : schema.Valid) :
    (create schema).WellTyped := by
  refine ⟨(create_sound valid).1, ?_⟩
  rw [create_rows]
  simp

/-! ### Changes of several rows -/

/-- What a series of changes came to: all of them were made, or the content is
that of the start. -/
inductive Settled (start : Table) : Table × Except Error Nat → Prop
  | made {table : Table} (count : Nat) (wellTyped : table.WellTyped)
      (schema : table.schema = start.schema) : Settled start (table, .ok count)
  | reversed {table : Table} (error : Error) (sound : table.Sound)
      (same : SameContent table start) : Settled start (table, .error error)

variable {log : ChangeLog}

/-- Replaying the log of what was done settles a failure. -/
theorem settled_rollback (error : Error) (sound : start.Sound)
    (records : ChangeLog.Records start log table) :
    Settled start ((ChangeLog.rollback table log).table, .error error) := by
  obtain ⟨restored, replayed, sound', same⟩ :=
    records.rollback sound (records.sound sound) (SameContent.refl table)
  rw [replayed]
  exact .reversed error sound' same

/-- Updates with typed rows are made as a whole or leave the content alone. -/
theorem applyUpdates_settled {changes : List (RowId × Row)} (sound : start.Sound)
    (wellTyped : table.WellTyped) (records : ChangeLog.Records start log table)
    (typed : ∀ change ∈ changes, Row.Typed start.schema.columns change.2) :
    Settled start (table.applyUpdates log changes) := by
  induction changes generalizing table log with
  | nil => exact .made _ wellTyped (records.schema sound)
  | cons change rest ih =>
      obtain ⟨id, row⟩ := change
      have fits : Row.Typed table.schema.columns row := by
        rw [records.schema sound]
        exact typed _ List.mem_cons_self
      rw [applyUpdates]
      cases updated : table.update id row with
      | error error => exact settled_rollback error sound records
      | ok result =>
          exact ih (wellTyped.update fits updated) (records.updated fits.width updated)
            fun change member => typed change (List.mem_cons_of_mem _ member)

/-- Deletions are made as a whole or leave the content alone. -/
theorem applyDeletes_settled {ids : List RowId} (sound : start.Sound)
    (wellTyped : table.WellTyped) (records : ChangeLog.Records start log table) :
    Settled start (table.applyDeletes log ids) := by
  induction ids generalizing table log with
  | nil => exact .made _ wellTyped (records.schema sound)
  | cons id rest ih =>
      rw [applyDeletes]
      cases deleted : table.delete id with
      | error error => exact settled_rollback error sound records
      | ok result => exact ih (wellTyped.delete deleted) (records.deleted deleted)

namespace Settled

variable {applied : Table × Except Error Nat}

/-- A series of changes that has settled leaves a well-typed table. -/
theorem wellTyped (settled : Settled start applied) (wellTyped : start.WellTyped) :
    applied.1.WellTyped := by
  cases settled with
  | made _ made _ => exact made
  | reversed _ sound same => exact wellTyped.of_sameContent sound same

theorem schema (settled : Settled start applied) : applied.1.schema = start.schema := by
  cases settled with
  | made _ _ schema => exact schema
  | reversed _ _ same => exact same.schema

/-- Nothing tells a table after a failure from the table of before. -/
theorem indistinguishable {table : Table} {error : Error}
    (settled : Settled start (table, .error error)) (sound : start.Sound) :
    Indistinguishable table start := by
  cases settled with
  | reversed _ sound' same => exact sound'.indistinguishable sound same

end Settled

end Table

end Relational
