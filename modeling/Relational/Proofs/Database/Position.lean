import Relational.Proofs.Database.Guard
import Relational.Proofs.Grammar
import Relational.Proofs.Statement.Position

/-!
# Positions in a statement that is run

On a database that statements lead to, nothing is looked up at a position where it is
not: not while a statement is bound, planned and run, not in a table of marks for the
columns of an insertion, and not where the changes of a statement are reversed.
-/

namespace Relational

namespace Database

variable {now : DateTime} {database : Database} {statement : Statement}

namespace Sound

/-- Planning a statement looks up nothing that is not there. -/
theorem plan_inRange (database : Database) (statement : Statement) :
    InRange (database.plan statement) :=
  plan_failsOnly InRange.general database statement

/-- A statement that reads looks up nothing that is not there. -/
theorem query_inRange (sound : database.Sound) (statement : Statement) :
    InRange (database.query now statement) :=
  query_failsOnly InRange.general (.inl InRange.forms) (.inr sound)

/-- Running a statement looks up nothing that is not there. -/
theorem execute_inRange (sound : database.Sound) (statement : Statement) :
    InRange (database.execute now statement).2 :=
  execute_failsOnly InRange.general (.inl InRange.forms) (.inr sound)

end Sound

/-- Whatever a statement looks up at a position is there. -/
structure FindsPositions (now : DateTime) (database : Database) (statement : Statement) :
    Prop where
  plans : InRange (database.plan statement)
  queries : InRange (database.query now statement)
  executes : InRange (database.execute now statement).2
  /-- The columns that an insertion names have places in a table of marks, and so has each
  column that it leaves out. -/
  marks : ∀ insertion table, statement = .insert insertion →
    database.tables.get? insertion.table = some table →
      InRange (insertion.bindMarking now table.schema) ∧
        insertion.bindMarking now table.schema = insertion.bind now table.schema
  /-- A name with a position in a schema is the name of the column at this position, before
  and after the statement. -/
  columns : ∀ name table, database.tables.get? name = some table ∨
    (database.execute now statement).1.tables.get? name = some table →
      ∀ column position, table.schema.position? column = some position →
        ∃ declared, table.schema.columns[position]? = some declared ∧ declared.name = column
  /-- Every schema has a column for the primary key, before and after the statement. -/
  keys : ∀ name table, database.tables.get? name = some table ∨
    (database.execute now statement).1.tables.get? name = some table →
      ∃ column, table.schema.columns[table.schema.keyPosition]? = some column
  /-- Changes of a table are reversed without a failure. -/
  reverses : ∀ name table log reached, database.tables.get? name = some table →
    ChangeLog.Records table log reached → (ChangeLog.rollback reached log).failure = none

/-- No statement looks up a position that is out of range, on any database that statements
lead to. -/
theorem Reachable.findsPositions (reachable : database.Reachable) {text : String}
    (parsed : Statement.parse text = .ok statement) (now : DateTime) :
    database.FindsPositions now statement := by
  have sound := reachable.sound
  have sound' := (reachable.executed now (Statement.parse_valid parsed)).sound
  refine ⟨Sound.plan_inRange database statement, sound.query_inRange statement,
    sound.execute_inRange statement, ?_, ?_, ?_, ?_⟩
  · intro insertion table same filed
    have valid := (sound.wellTyped _ _ filed).valid
    have alike := Insert.bindMarking_eq now valid insertion
    exact ⟨alike ▸ insertion.bind_inRange now valid, alike⟩
  · intro _ _ _ column position located
    exact Schema.exists_column_of_position? located
  · intro name table filed
    have valid : table.schema.Valid :=
      filed.elim (fun filed => (sound.wellTyped _ _ filed).valid)
        fun filed => (sound'.wellTyped _ _ filed).valid
    exact ⟨_, List.getElem?_eq_getElem valid.keyPosition_lt⟩
  · intro name table log reached filed records
    have sound := (sound.wellTyped _ _ filed).toSound
    obtain ⟨restored, replayed, -⟩ :=
      records.rollback sound (records.sound sound) (Table.SameContent.refl reached)
    rw [replayed]

/-- The notes of the tanks, each with the number of its tanks. -/
def noteCounts : String :=
  "SELECT note, COUNT(*) FROM tank GROUP BY note HAVING MAX(level) > 1 ORDER BY note DESC"

/-- A query with groups, a condition on them and an order looks up all that it needs. -/
theorem plant_findsPositions : plant.Reachable ∧
    ∃ statement, Statement.parse noteCounts = .ok statement ∧ statement.name = "SELECT" ∧
      plant.FindsPositions leapDay statement := by
  have query : (Statement.parse noteCounts).map Statement.name = .ok "SELECT" := by
    decide +kernel
  obtain ⟨statement, parsed, named⟩ := map_eq_ok.mp query
  exact ⟨plant_reachable, statement, parsed, named, plant_reachable.findsPositions parsed leapDay⟩

end Database

end Relational
