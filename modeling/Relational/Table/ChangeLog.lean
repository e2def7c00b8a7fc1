import Relational.Table

/-!
# Change logs

A statement that changes rows one after another records how to reverse each
change.  If it fails half way, the log is replayed backwards.
-/

namespace Relational

/-- A change that was made and can be reversed. -/
inductive Change where
  | updated (id : RowId) (before : Row)
  | deleted (id : RowId) (row : Row)
deriving DecidableEq

namespace Change

/-- The table without this change. -/
def revert (table : Table) : Change → Except Error Table
  | .updated id before => do
    let (reverted, _) ← table.update id before
    return reverted
  | .deleted id row => table.restore id row

end Change

/-- The changes made so far, newest first. -/
abbrev ChangeLog := List Change

namespace ChangeLog

/-- How far a log could be replayed: the table reached, and the error that
stopped it. -/
structure Rollback where
  table : Table
  failure : Option Error

/-- Reverse every change, newest first, up to the first one that cannot be. -/
def rollback (table : Table) : ChangeLog → Rollback
  | [] => ⟨table, none⟩
  | change :: older =>
    match change.revert table with
    | .ok reverted => rollback reverted older
    | .error error => ⟨table, some error⟩

end ChangeLog

end Relational
