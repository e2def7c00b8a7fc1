import Relational.Proofs.Database.Application
import Relational.Proofs.Grammar.Spelling
import Relational.Proofs.Statement.Guard

/-!
# What running a statement is guarded against

Every row that a table holds, and every row that a statement makes for it, is as wide as
its schema, and the position of the primary key lies in the schema.  So whatever a
statement looks up at a position while it is bound, planned and run is there, whether the
statement succeeds or fails.  And if its expressions are well formed, they are evaluated
without an error of form, on whatever rows the tables hold.
-/

namespace Relational

variable {kind : Error → Prop}

/-- All expressions of a statement are well formed. -/
def Statement.WellFormed (statement : Statement) : Prop :=
  ∀ expression ∈ statement.expressions, expression.WellFormed

/-- A query that is well formed as a statement is well formed. -/
theorem Statement.WellFormed.select {query : Select} (formed : (Statement.select query).WellFormed) :
    query.WellFormed where
  shown expression member := formed expression
    (List.mem_append_left _ (List.mem_append_left _ member))
  condition expression member := formed expression
    (List.mem_append_left _ (List.mem_append_right _ (Option.mem_toList.mpr member)))
  having expression member := formed expression
    (List.mem_append_right _ (Option.mem_toList.mpr member))

/-- Binding an update keeps its contents and its condition well formed. -/
theorem Statement.WellFormed.bind_update {change : Update} {bound : BoundUpdate} {schema : Schema}
    (formed : (Statement.update change).WellFormed) (binds : change.bind schema = .ok bound) :
    (∀ target ∈ bound.assignments, target.2.WellFormed) ∧
      ∀ expression ∈ bound.condition, expression.WellFormed := by
  refine Update.wellFormed_of_bind (fun assignment member => formed _ ?_)
    (fun expression member => formed _ ?_) binds
  · exact List.mem_append_left _ (List.mem_map_of_mem member)
  · exact List.mem_append_right _ (Option.mem_toList.mpr member)

/-- Binding a removal keeps its condition well formed. -/
theorem Statement.WellFormed.bind_delete {removal : Delete} {bound : Option Expr} {schema : Schema}
    (formed : (Statement.delete removal).WellFormed)
    (binds : Expr.bindCondition schema removal.condition = .ok bound) :
    ∀ expression ∈ bound, expression.WellFormed :=
  Expr.WellFormed.bindCondition schema
    (fun expression member => formed expression (Option.mem_toList.mpr member)) binds

variable (general : Allows kind Error.isGeneral)

include general

namespace Table

variable {table : Table} {row : Row}

/-- Checking the key of a row that is as wide as the schema looks up nothing out of
range. -/
theorem checkKey_failsOnly (places : Allows kind Error.isOutOfRange ∨
      table.schema.Valid ∧ row.length = table.schema.columns.length) :
    FailsOnly kind (table.checkKey row) := by
  refine (Row.cell_failsOnly (places.imp_right fun ⟨valid, width⟩ =>
    valid.keyPosition_lt.trans_eq width.symm)).bind fun key _ => ?_
  dsimp only
  split
  · exact .error (general _ rfl)
  · split
    · exact .error (general _ rfl)
    · exact .ok _

/-- Inserting a row fails only as it is allowed to. -/
theorem insert_failsOnly (places : Allows kind Error.isOutOfRange ∨ table.schema.Valid)
    (row : Row) : FailsOnly kind (table.insert row) := by
  unfold insert
  split
  · exact .error (general _ rfl)
  · rename_i width
    exact (checkKey_failsOnly general (places.imp_right fun valid => ⟨valid, not_not.mp width⟩)).bind
      fun _ _ => .pure _

/-- Asking for a row fails only as it is allowed to. -/
theorem existing_failsOnly (table : Table) (id : RowId) : FailsOnly kind (table.existing id) := by
  unfold existing
  split
  · exact .ok _
  · exact .error (general _ rfl)

/-- Replacing a row fails only as it is allowed to. -/
theorem update_failsOnly (id : RowId) (places : Allows kind Error.isOutOfRange ∨
      table.Sound ∧ row.length = table.schema.columns.length) :
    FailsOnly kind (table.update id row) := by
  refine (existing_failsOnly general table id).bind fun before stands => ?_
  have within : Allows kind Error.isOutOfRange ∨
      table.schema.keyPosition < before.length ∧ table.schema.keyPosition < row.length := by
    refine places.imp_right fun ⟨sound, width⟩ => ?_
    have width' := sound.width _ (sound.mem_of_viewOf (existing_eq_ok_iff.mp stands))
    have key := sound.valid.keyPosition_lt
    exact ⟨key.trans_eq width'.symm, key.trans_eq width.symm⟩
  refine (Row.cell_failsOnly (within.imp_right And.left)).bind fun _ _ => ?_
  refine (Row.cell_failsOnly (within.imp_right And.right)).bind fun _ _ => ?_
  split
  · exact .error (general _ rfl)
  · exact .pure _

/-- Removing a row fails only as it is allowed to. -/
theorem delete_failsOnly (table : Table) (id : RowId) : FailsOnly kind (table.delete id) :=
  (existing_failsOnly general table id).bind fun _ _ => .pure _

/-- Making an index fails only as it is allowed to. -/
theorem createIndex_failsOnly (table : Table) (declared : IndexDeclaration) :
    FailsOnly kind (table.createIndex declared) := by
  unfold createIndex
  split
  · exact .error (general _ rfl)
  · refine (table.schema.position_failsOnly general declared.column).bind fun _ _ => ?_
    dsimp only
    split <;> exact .pure _

/-- Rows are replaced one after another by rows as wide as the table. -/
theorem applyUpdates_failsOnly (log : ChangeLog) {changes : List (RowId × Row)}
    (places : Allows kind Error.isOutOfRange ∨
      table.Sound ∧ ∀ change ∈ changes, change.2.length = table.schema.columns.length) :
    FailsOnly kind (table.applyUpdates log changes).2 := by
  induction changes generalizing table log with
  | nil => exact .ok _
  | cons change rest ih =>
      obtain ⟨id, row⟩ := change
      rw [applyUpdates]
      cases updated : table.update id row with
      | error error =>
          refine .error (update_failsOnly general id (places.imp_right fun held => ?_) error updated)
          exact ⟨held.1, held.2 _ List.mem_cons_self⟩
      | ok result =>
          obtain ⟨changed, before⟩ := result
          refine ih _ (places.imp_right fun held => ?_)
          obtain ⟨sound, wide⟩ := held
          obtain ⟨head, tail⟩ := List.forall_mem_cons.mp wide
          have schema := (sound.update_rewrites head updated).schema
          refine ⟨sound.update head updated, fun change member => ?_⟩
          rw [schema]
          exact tail change member

/-- Removing several rows fails only as it is allowed to. -/
theorem applyDeletes_failsOnly (table : Table) (log : ChangeLog) (ids : List RowId) :
    FailsOnly kind (table.applyDeletes log ids).2 := by
  induction ids generalizing table log with
  | nil => exact .ok _
  | cons id rest ih =>
      rw [applyDeletes]
      cases deleted : table.delete id with
      | error error => exact .error (delete_failsOnly general table id error deleted)
      | ok result => exact ih result.1 _

end Table

namespace Database

variable {now : DateTime} {database : Database} {statement : Statement}

/-- Asking for a table fails only as it is allowed to. -/
theorem table_failsOnly (database : Database) (name : String) :
    FailsOnly kind (database.table name) := by
  unfold Database.table
  split
  · exact .ok _
  · exact .error (general _ rfl)

/-- Planning a statement fails only as it is allowed to. -/
theorem plan_failsOnly (database : Database) (statement : Statement) :
    FailsOnly kind (database.plan statement) := by
  cases statement with
  | select query =>
      exact (database.table_failsOnly general _).bind fun table _ =>
        (query.bind_failsOnly general table.schema).bind fun _ _ => .pure _
  | update change =>
      exact (database.table_failsOnly general _).bind fun table _ =>
        (Update.bind_failsOnly general table.schema change).bind fun _ _ => .pure _
  | delete removal =>
      exact (database.table_failsOnly general _).bind fun table _ =>
        (Expr.bindCondition_failsOnly general table.schema _).bind fun _ _ => .pure _
  | _ => exact .error (general _ rfl)

/-- A query fails only as it is allowed to, if its form and its positions are right or need
not be. -/
theorem select_failsOnly {query : Select}
    (form : Allows kind Error.isOfForm ∨ query.WellFormed)
    (places : Allows kind Error.isOutOfRange ∨ database.Sound) :
    FailsOnly kind (database.select now query) := by
  refine (database.table_failsOnly general _).bind fun table filed => ?_
  refine (query.bind_failsOnly general table.schema).bind fun bound binds => ?_
  refine (Select.answer_failsOnly general (form.imp_right fun formed => formed.bind binds)
    (places.imp_right fun sound => ?_)).bind fun _ _ => .pure _
  exact sound.wellTyped _ _ (table_eq_ok_iff.mp filed)

/-- A statement that reads fails only as it is allowed to. -/
theorem query_failsOnly (form : Allows kind Error.isOfForm ∨ statement.WellFormed)
    (places : Allows kind Error.isOutOfRange ∨ database.Sound) :
    FailsOnly kind (database.query now statement) := by
  cases statement with
  | select query =>
      exact select_failsOnly general (form.imp_right Statement.WellFormed.select) places
  | showTables => exact .ok _
  | _ => exact .error (general _ rfl)

/-- An insertion fails only as it is allowed to. -/
theorem insertRow_failsOnly {insertion : Insert}
    (form : Allows kind Error.isOfForm ∨ ∀ content ∈ insertion.values, content.WellFormed)
    (places : Allows kind Error.isOutOfRange ∨ database.Sound) :
    FailsOnly kind (database.insertRow now insertion) := by
  refine (database.table_failsOnly general _).bind fun table filed => ?_
  have valid : Allows kind Error.isOutOfRange ∨ table.schema.Valid :=
    places.imp_right fun sound => (sound.wellTyped _ _ (table_eq_ok_iff.mp filed)).valid
  exact (Insert.bind_failsOnly general form valid).bind fun row _ =>
    (Table.insert_failsOnly general valid row).bind fun _ _ => .pure _

/-- Preparing an update fails only as it is allowed to. -/
theorem prepareUpdate_failsOnly {change : Update}
    (form : Allows kind Error.isOfForm ∨ (Statement.update change).WellFormed)
    (places : Allows kind Error.isOutOfRange ∨ database.Sound) :
    FailsOnly kind (database.prepareUpdate now change) := by
  refine (database.table_failsOnly general _).bind fun table filed => ?_
  refine (Update.bind_failsOnly general table.schema change).bind fun bound binds => ?_
  have form := form.imp_right fun formed => formed.bind_update binds
  refine FailsOnly.bind ?_ fun _ _ => .pure _
  refine (table.matchingRows_failsOnly general now (form.imp_right And.right)).bind
    fun rows found => ?_
  refine FailsOnly.mapM fun entry member => ?_
  have within := Update.inside_of_bind binds (Scope.ofRow now table.schema entry.2)
  refine (Update.assign_failsOnly general (Scope.ofRow_answers general now table.schema entry.2)
    (form.imp_right And.left) within (places.imp_right fun sound => ?_)).bind fun _ _ => .pure _
  have wellTyped := sound.wellTyped _ _ (table_eq_ok_iff.mp filed)
  exact wellTyped.width entry (Table.mem_of_matchingRows wellTyped.toSound found member)

/-- Preparing a removal fails only as it is allowed to. -/
theorem prepareDelete_failsOnly (database : Database) {removal : Delete}
    (form : Allows kind Error.isOfForm ∨ (Statement.delete removal).WellFormed) :
    FailsOnly kind (database.prepareDelete now removal) :=
  (database.table_failsOnly general _).bind fun table _ =>
    (Expr.bindCondition_failsOnly general table.schema _).bind fun _ binds =>
      (table.matchingRows_failsOnly general now
        (form.imp_right fun formed => formed.bind_delete binds)).bind fun _ _ => .pure _

omit general in
/-- A change of a whole database fails as its result does. -/
theorem whole_failsOnly {result : Except Error Database} (fails : FailsOnly kind result)
    (outcome : Outcome) : FailsOnly kind (database.whole outcome result).2 := by
  cases result with
  | ok changed => exact .ok _
  | error error => exact .error (fails error rfl)

/-- A statement with well-formed expressions is run, on tables that are sound, without an
error that these guard against. -/
theorem execute_failsOnly (form : Allows kind Error.isOfForm ∨ statement.WellFormed)
    (places : Allows kind Error.isOutOfRange ∨ database.Sound) :
    FailsOnly kind (database.execute now statement).2 := by
  cases statement with
  | select query =>
      exact select_failsOnly general (form.imp_right Statement.WellFormed.select) places
  | showTables => exact .ok _
  | insert insertion =>
      exact whole_failsOnly (insertRow_failsOnly general form places) _
  | update change =>
      rw [Database.execute]
      cases prepared : database.prepareUpdate now change with
      | error error =>
          exact .error (prepareUpdate_failsOnly general form places error prepared)
      | ok result =>
          obtain ⟨table, filed, prepared⟩ := bind_eq_ok.mp prepared
          obtain ⟨bound, -, prepared⟩ := bind_eq_ok.mp prepared
          obtain ⟨computed, computes, result⟩ := bind_eq_ok.mp prepared
          cases result
          refine (Table.applyUpdates_failsOnly general []
            (places.imp_right fun sound => ?_)).map
          have wellTyped := sound.wellTyped _ _ (table_eq_ok_iff.mp filed)
          have typed := Update.changes_typed wellTyped computes
          exact ⟨wellTyped.toSound, fun change member => (typed change member).width⟩
  | delete removal =>
      rw [Database.execute]
      cases prepared : database.prepareDelete now removal with
      | error error => exact .error (prepareDelete_failsOnly general database form error prepared)
      | ok result => exact (Table.applyDeletes_failsOnly general result.1 [] result.2).map
  | createTable schema =>
      refine whole_failsOnly ?_ _
      unfold Database.createTable
      split
      · exact .error (general _ rfl)
      · exact .ok _
  | createIndex declaration =>
      refine whole_failsOnly ?_ _
      exact (database.table_failsOnly general _).bind fun table _ =>
        (table.createIndex_failsOnly general _).bind fun _ _ => .pure _
  | dropTable name =>
      refine whole_failsOnly ?_ _
      unfold Database.dropTable
      split
      · exact .ok _
      · exact .error (general _ rfl)

end Database

end Relational
