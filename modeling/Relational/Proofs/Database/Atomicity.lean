import Relational.Proofs.Database.Sound

/-!
# Statements that fail change nothing

A statement that fails leaves the database as it was, as far as anyone can see:
the same tables, with the same rows under the same identities, the same next
identities and the same answers of every index.  Before the first row is
touched this holds because nothing was changed; a change of several rows that
fails half way is reversed row by row.
-/

namespace Relational

namespace NameMap

variable {α : Type}

/-- Filing a value under a name that is taken keeps the names. -/
theorem insertEntry_names_of_mem {name : String} {value kept : α} {entries : List (String × α)}
    (ascending : Ascending entries) (member : (name, kept) ∈ entries) :
    (insertEntry name value entries).map Prod.fst = entries.map Prod.fst := by
  fun_induction insertEntry name value entries with
  | case1 => cases member
  | case2 => rfl
  | case3 other earlier rest different before =>
      obtain ⟨first, -⟩ := List.pairwise_cons.mp ascending
      rcases List.mem_cons.mp member with same | later
      · cases same
        exact absurd rfl different
      · exact absurd before (first _ later).asymm
  | case4 other earlier rest different _ ih =>
      obtain ⟨-, following⟩ := List.pairwise_cons.mp ascending
      rcases List.mem_cons.mp member with same | later
      · cases same
        exact absurd rfl different
      · exact congrArg (other :: ·) (ih following later)

end NameMap

namespace Database

/-- Databases with the same tables under the same names, as far as their content
and the answers of their indexes tell. -/
structure Indistinguishable (first second : Database) : Prop where
  name : first.name = second.name
  names : first.tables.names = second.tables.names
  tables : ∀ name table table', first.tables.get? name = some table →
    second.tables.get? name = some table' → Table.Indistinguishable table table'

variable {now : DateTime} {database : Database} {name : String} {table changed : Table}
  {outcome : Outcome} {error : Error}

theorem Indistinguishable.of_eq {changed : Database} (same : changed = database) :
    Indistinguishable changed database := by
  subst same
  refine ⟨rfl, rfl, fun name table table' found found' => ?_⟩
  cases found.symm.trans found'
  exact Table.Indistinguishable.refl table

/-- Replacing a table by one that nothing tells from it. -/
theorem Sound.withTable_indistinguishable (sound : database.Sound)
    (found : database.tables.get? name = some table)
    (same : Table.Indistinguishable changed table) :
    Indistinguishable (database.withTable name changed) database := by
  refine ⟨rfl, ?_, fun other table' table'' filed filed' => ?_⟩
  · exact NameMap.insertEntry_names_of_mem sound.ordered
      (sound.ordered.get?_eq_some_iff.mp found)
  · rw [Database.withTable, NameMap.get?_insert] at filed
    split at filed
    · rename_i here
      subst here
      cases filed
      cases found.symm.trans filed'
      exact same
    · cases filed.symm.trans filed'
      exact Table.Indistinguishable.refl table'

/-- A change of a whole database that fails leaves the database as it is. -/
theorem whole_eq_of_error {result : Except Error Database}
    (fails : (database.whole outcome result).2 = .error error) :
    (database.whole outcome result).1 = database := by
  cases result with
  | ok changed => cases fails
  | error _ => rfl

/-- A failed series of changes is filed as a table that nothing tells from the
one of before. -/
theorem Sound.withChanges_indistinguishable {applied : Table × Except Error Nat}
    (sound : database.Sound) (found : database.tables.get? name = some table)
    (settled : Table.Settled table applied)
    (fails : (database.withChanges name applied).2 = .error error) :
    Indistinguishable (database.withChanges name applied).1 database := by
  obtain ⟨after, result⟩ := applied
  cases result with
  | ok count => cases fails
  | error cause =>
      exact sound.withTable_indistinguishable found
        (settled.indistinguishable (sound.wellTyped _ _ found).toSound)

/-- A failed statement leaves a sound database as it is, as far as anything
tells. -/
theorem Sound.execute_indistinguishable {statement : Statement} (sound : database.Sound)
    (fails : (database.execute now statement).2 = .error error) :
    Indistinguishable (database.execute now statement).1 database := by
  cases statement with
  | select query => exact .of_eq rfl
  | insert insertion => exact .of_eq (whole_eq_of_error fails)
  | update change =>
      rw [Database.execute] at fails ⊢
      cases prepared : database.prepareUpdate now change with
      | error _ => exact .of_eq rfl
      | ok result =>
          rw [prepared] at fails
          obtain ⟨found, settled⟩ := sound.update_settled prepared
          exact sound.withChanges_indistinguishable found settled fails
  | delete removal =>
      rw [Database.execute] at fails ⊢
      cases prepared : database.prepareDelete now removal with
      | error _ => exact .of_eq rfl
      | ok result =>
          rw [prepared] at fails
          obtain ⟨found, settled⟩ := sound.delete_settled prepared
          exact sound.withChanges_indistinguishable found settled fails
  | createTable schema => exact .of_eq (whole_eq_of_error fails)
  | createIndex declaration => exact .of_eq (whole_eq_of_error fails)
  | dropTable name => exact .of_eq (whole_eq_of_error fails)
  | showTables => exact .of_eq rfl

/-- A failed statement leaves a reachable database as it is, as far as anything
tells. -/
theorem Reachable.execute_error (reachable : database.Reachable) (now : DateTime)
    (statement : Statement) (error : Error)
    (fails : (database.execute now statement).2 = .error error) :
    Indistinguishable (database.execute now statement).1 database :=
  reachable.sound.execute_indistinguishable fails

/-- A new note on every tank.  The undefined key of the third tank differs from
itself, so that its row cannot be replaced after two others were. -/
def relabelling : Statement :=
  .update ⟨"tank", [("note", .literal (.text "checked"))], none⟩

/-- A change of levels is refused as one of primary keys, and the plant is as before. -/
theorem plant_relabelling :
    plant.Reachable ∧
      (plant.execute leapDay relabelling).2 =
        .error (.constraint (.primaryKeyUpdate "level")) ∧
      Indistinguishable (plant.execute leapDay relabelling).1 plant := by
  have fails : (plant.execute leapDay relabelling).2 =
      .error (.constraint (.primaryKeyUpdate "level")) := by decide +kernel
  exact ⟨plant_reachable, fails, plant_reachable.execute_error leapDay relabelling _ fails⟩

end Database

end Relational
