import Relational.Proofs.Database.Partition
import Relational.Proofs.Query.Resolution

/-!
# Answers that do not depend on names

A query that binding accepts and whose names are in their places never fails for
a column without a value or for an aggregate out of its place, on any table that
statements lead to.  A query whose `HAVING` names a column that is neither grouped
nor shown is accepted as well, and fails as soon as there is a group.
-/

namespace Relational

namespace Database

variable {now : DateTime} {database : Database} {name : String} {table : Table}
  {query bound : Select}

/-- What binding accepts is answered without a name that has no value, whatever
rows the table has. -/
theorem Reachable.bound_query_resolves (reachable : database.Reachable)
    (filed : database.tables.get? name = some table)
    (binds : query.bind table.schema = .ok bound) (placed : query.Placed table.schema) :
    Resolves (bound.answer now table) :=
  Select.answer_resolves (reachable.sound.wellTyped name table filed).toSound binds placed

/-- The ones that occur more than once, and how often they do. -/
def repeated : Select where
  items := [.expression (.column "m") none,
    .expression (.aggregate .count none false) (some "times")]
  table := "t"
  condition := some (.isNull (.column "m") true)
  groupBy := some ["m"]
  having := some (.binary .and
    (.binary .greater (.column "times") (.literal (.integer 1)))
    (.binary .greater (.aggregate .max (some (.column "n")) false) (.column "m")))
  orderBy := some [⟨"times", false⟩, ⟨"m", true⟩]
  limit := none
  offset := none

/-- The query for numbers that occur more than once has all its columns in places where they
resolve. -/
theorem repeated_placed : repeated.Placed tallied.schema := by
  have aggregates : repeated.aggregates =
      [.aggregate .count none false, .aggregate .max (some (.column "n")) false] := rfl
  constructor
  · intro condition same
    cases same
    decide
  · rw [aggregates]
    simp only [List.forall_mem_cons]
    decide
  · rw [aggregates]
    simp only [List.forall_mem_cons, Expr.parts]
    decide
  · rw [aggregates]
    simp only [List.forall_mem_cons]
    decide
  · intro _
    decide

/-- On the tally, the query for numbers that occur more than once resolves all its
columns. -/
theorem tally_repeated : tally.Reachable ∧ tally.tables.get? "t" = some tallied ∧
    repeated.bind tallied.schema = .ok repeated ∧ repeated.Placed tallied.schema ∧
    Resolves (repeated.answer leapDay tallied) := by
  have filed : tally.tables.get? "t" = some tallied := by decide +kernel
  have binds : repeated.bind tallied.schema = .ok repeated := rfl
  exact ⟨tally_reachable, filed, binds, repeated_placed,
    tally_reachable.bound_query_resolves filed binds repeated_placed⟩

/-- The numbers of the rows whose other number is five, each row being a group. -/
def unplaced : Select where
  items := [.expression (.column "id") none]
  table := "t"
  condition := none
  groupBy := some ["id"]
  having := some (.binary .equal (.column "n") (.literal (.integer 5)))
  orderBy := none
  limit := none
  offset := none

/-- Binding accepts a column in `HAVING` that no group has.  There is no error
as long as there are no groups. -/
theorem tally_unplaced : tally.Reachable ∧ tally.tables.get? "t" = some tallied ∧
    unplaced.bind tallied.schema = .ok unplaced ∧
    unplaced.answer leapDay (Table.create tallied.schema) = .ok [] ∧
    unplaced.answer leapDay tallied = .error (.columnNotFound "t" "n") ∧
    ¬ Resolves (unplaced.answer leapDay tallied) := by
  have failed : unplaced.answer leapDay tallied = .error (.columnNotFound "t" "n") := by
    decide +kernel
  have answered : unplaced.answer leapDay (Table.create tallied.schema) = .ok [] := by
    decide +kernel
  refine ⟨tally_reachable, by decide +kernel, rfl, answered, failed, fun resolves => ?_⟩
  exact nomatch resolves _ failed

end Database

end Relational
