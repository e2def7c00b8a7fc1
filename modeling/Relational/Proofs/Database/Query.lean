import Relational.Proofs.Database.Sound

/-!
# Rows that statements find

The rows on which a query, an update or a removal works are those of the table
that meet its condition, in the order of their identities, whatever indexes the
table has.  If the condition can be evaluated on every row of the table, they
are found.
-/

namespace Relational

/-- The condition of a statement on a table, and what binding makes of it. -/
inductive Expr.Bound (schema : Schema) : Option Expr → Option Expr → Prop
  | select {query bound : Select} (binds : query.bind schema = .ok bound) :
      Bound schema query.condition bound.condition
  | update {change : Update} {bound : BoundUpdate} (binds : change.bind schema = .ok bound) :
      Bound schema change.condition bound.condition
  | delete {removal : Delete} {bound : Option Expr}
      (binds : Expr.bindCondition schema removal.condition = .ok bound) :
      Bound schema removal.condition bound

/-- All statements bind their conditions alike. -/
theorem Expr.Bound.coerces {schema : Schema} {original condition : Option Expr}
    (bound : Expr.Bound schema original condition) :
    Expr.coerceCondition schema original = .ok condition := by
  cases bound with
  | select binds =>
      obtain ⟨_, -, binds⟩ := bind_eq_ok.mp binds
      obtain ⟨_, -, binds⟩ := bind_eq_ok.mp binds
      obtain ⟨condition, coerces, result⟩ := bind_eq_ok.mp binds
      cases result
      exact coerces
  | update binds =>
      obtain ⟨_, -, binds⟩ := bind_eq_ok.mp binds
      obtain ⟨_, -, binds⟩ := bind_eq_ok.mp binds
      obtain ⟨_, -, binds⟩ := bind_eq_ok.mp binds
      obtain ⟨_, -, binds⟩ := bind_eq_ok.mp binds
      obtain ⟨_, -, binds⟩ := bind_eq_ok.mp binds
      obtain ⟨condition, coerces, result⟩ := bind_eq_ok.mp binds
      cases result
      exact coerces
  | delete binds =>
      obtain ⟨_, -, binds⟩ := bind_eq_ok.mp binds
      obtain ⟨_, -, coerces⟩ := bind_eq_ok.mp binds
      exact coerces

namespace Database

/-- No plan changes which rows of a table in a reachable database are found for
a condition. -/
theorem Reachable.matchingRows_eq_filter {database : Database} {name : String} {table : Table}
    {original condition : Option Expr} (reachable : database.Reachable)
    (filed : database.tables.get? name = some table)
    (bound : Expr.Bound table.schema original condition) (now : DateTime) :
    (∀ found, table.matchingRows now condition = .ok found →
      (found = table.rows.filter fun entry => entry.2.meets now table.schema condition) ∧
        Ascending found) ∧
      ((∀ entry ∈ table.rows, entry.2.Decides now table.schema condition) →
        ∃ found, table.matchingRows now condition = .ok found) := by
  have wellTyped := reachable.sound.wellTyped name table filed
  refine ⟨fun found finds => ?_, Table.exists_matchingRows wellTyped.toSound⟩
  have same := Table.matchingRows_eq wellTyped.toSound wellTyped.typed bound.coerces finds
  refine ⟨same, ?_⟩
  rw [same]
  exact wellTyped.ascending.filter _

/-- The removal of the tanks with a note and the level 1. -/
def emptying : Delete :=
  ⟨"tank", some (.binary .and (.isNull (.column "note") true)
    (.binary .equal (.literal (.integer 1)) (.column "level")))⟩

/-- The condition of the removal, the integer having become a level. -/
def levelOne : Expr :=
  .binary .and (.isNull (.column "note") true)
    (.binary .equal (.literal (.float ⟨0x3ff0000000000000⟩)) (.column "level"))

/-- The removal of the tank at a level finds it through the index on the levels. -/
theorem plant_emptying : plant.Reachable ∧ plant.tables.get? "tank" = some adjustedTanks ∧
    Expr.Bound adjustedTanks.schema emptying.condition (some levelOne) ∧
    (Plan.choose adjustedTanks (some levelOne)).access =
      .byIndex "level" (.float ⟨0x3ff0000000000000⟩) ∧
    (∀ found, adjustedTanks.matchingRows leapDay (some levelOne) = .ok found →
      (found = adjustedTanks.rows.filter fun entry =>
        entry.2.meets leapDay adjustedTanks.schema (some levelOne)) ∧ Ascending found) ∧
      ((∀ entry ∈ adjustedTanks.rows,
          entry.2.Decides leapDay adjustedTanks.schema (some levelOne)) →
        ∃ found, adjustedTanks.matchingRows leapDay (some levelOne) = .ok found) := by
  have filed : plant.tables.get? "tank" = some adjustedTanks := by decide +kernel
  have binds : Expr.bindCondition adjustedTanks.schema emptying.condition =
      .ok (some levelOne) := rfl
  exact ⟨plant_reachable, filed, .delete binds, by decide +kernel,
    plant_reachable.matchingRows_eq_filter filed (.delete binds) leapDay⟩

end Database

end Relational
