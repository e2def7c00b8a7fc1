import Mathlib.Algebra.GroupWithZero.Nat
import Relational.Proofs.Fallible
import Relational.Proofs.Schema
import Relational.Proofs.Statement.Typing
import Relational.Query.Grouping

/-!
# The classes behind groups

Two rows are in one class if, column by column, both hold nothing or both hold
cells with one key.  Rows join the groups one after another, but what comes of it
is the same as picking the rows that come first in their classes and collecting
the class of each: a group never takes in a row of another class, so that the
first group may be formed on its own, and the others from the rows it leaves.
-/

namespace Relational

/-- Columns that exist have positions. -/
theorem Schema.exists_positions {schema : Schema} {columns : List String}
    (located : ∀ column ∈ columns, (schema.position? column).isSome) :
    ∃ positions, columns.mapM schema.position = .ok positions := by
  refine ⟨columns.map fun column => (schema.position? column).getD 0, ?_⟩
  rw [mapM_eq_ok, List.forall₂_map_right_iff]
  refine List.forall₂_same.mpr fun column member => ?_
  obtain ⟨position, found⟩ := Option.isSome_iff_exists.mp (located column member)
  rw [Schema.position_eq_ok_iff, found, Option.getD_some]

namespace Row

/-- The cell of a row in a column; null if there is none. -/
def cellOf (schema : Schema) (row : Row) (column : String) : Value :=
  ((schema.position? column).bind fun position => row[position]?).getD .null

/-- Two rows are in one class if in each column both hold nothing or both hold
cells with one key. -/
def GroupsWith (schema : Schema) (columns : List String) (row other : Row) : Prop :=
  ∀ column ∈ columns,
    Key.ofValue? (row.cellOf schema column) = Key.ofValue? (other.cellOf schema column)

variable {schema : Schema} {columns : List String} {row other third : Row}

instance (schema : Schema) (columns : List String) (row other : Row) :
    Decidable (row.GroupsWith schema columns other) :=
  inferInstanceAs (Decidable (∀ column ∈ columns, _))

theorem GroupsWith.refl (row : Row) : row.GroupsWith schema columns row :=
  fun _ _ => rfl

theorem GroupsWith.symm (alike : row.GroupsWith schema columns other) :
    other.GroupsWith schema columns row :=
  fun column member => (alike column member).symm

theorem GroupsWith.trans (alike : row.GroupsWith schema columns other)
    (alike' : other.GroupsWith schema columns third) : row.GroupsWith schema columns third :=
  fun column member => (alike column member).trans (alike' column member)

/-- Groups compare the keys of the cells that they are grouped by. -/
theorem alike_iff_groupsWith : Group.alike (columns.map (row.cellOf schema))
    (columns.map (other.cellOf schema)) = true ↔ other.GroupsWith schema columns row := by
  rw [Group.alike, decide_eq_true_eq, List.map_map, List.map_map, List.map_inj_left]
  exact forall₂_congr fun _ _ => eq_comm

/-- A row with all its cells has one in every column. -/
theorem cell_of_typed (typed : Row.Typed schema.columns row) {column : String} {position : Nat}
    (located : schema.position? column = some position) :
    Row.cell row position = .ok (row.cellOf schema column) := by
  have inside : position < row.length := by
    rw [typed.width]
    exact Schema.position?_lt located
  rw [Row.cell, cellOf, located, Option.bind_some, List.getElem?_eq_getElem inside]
  rfl

/-- A row as wide as the schema has a cell in each column. -/
theorem cells_of_typed (typed : Row.Typed schema.columns row) {positions : List Nat}
    (located : columns.mapM schema.position = .ok positions) :
    positions.mapM (Row.cell row) = .ok (columns.map (row.cellOf schema)) := by
  rw [mapM_eq_ok] at located ⊢
  induction located with
  | nil => exact .nil
  | cons head _ ih =>
      exact .cons (cell_of_typed typed (Schema.position_eq_ok_iff.mp head)) ih

end Row

/-! ### Classes -/

section Classes

variable {schema : Schema} {columns : List String} {entries : List (RowId × Row)}
  {entry first : RowId × Row}

/-- The entries of the rows that come first in their classes. -/
def firsts (schema : Schema) (columns : List String) (entries : List (RowId × Row)) :
    List (RowId × Row) :=
  entries.eraseDupsBy fun entry earlier => entry.2.GroupsWith schema columns earlier.2

/-- The entries of the rows in the class of a row. -/
def classOf (schema : Schema) (columns : List String) (entries : List (RowId × Row)) (row : Row) :
    List (RowId × Row) :=
  entries.filter fun entry => entry.2.GroupsWith schema columns row

/-- The entries of the rows in other classes. -/
def othersOf (schema : Schema) (columns : List String) (entries : List (RowId × Row)) (row : Row) :
    List (RowId × Row) :=
  entries.filter fun entry => ¬ entry.2.GroupsWith schema columns row

/-- The first row begins a class, and the other classes are those of the rows outside of
it. -/
theorem firsts_cons : firsts schema columns (entry :: entries) =
    entry :: firsts schema columns (othersOf schema columns entries entry.2) := by
  rw [firsts, List.eraseDupsBy_cons]
  congr 3
  funext later
  rw [Bool.eq_iff_iff, decide_eq_true_eq, decide_eq_false_iff_not, decide_eq_true_eq]

/-- What holds of no rows, and of rows if it holds of those outside of the first
one's class, holds of all rows. -/
@[elab_as_elim]
theorem induction_on_classes (schema : Schema) (columns : List String)
    {motive : List (RowId × Row) → Prop} (nil : motive [])
    (cons : ∀ entry entries, motive (othersOf schema columns entries entry.2) →
      motive (entry :: entries)) (entries : List (RowId × Row)) : motive entries :=
  match entries with
  | [] => nil
  | entry :: rest => cons entry rest (induction_on_classes schema columns nil cons _)
termination_by entries.length
decreasing_by
  exact Nat.lt_succ_of_le (List.length_filter_le _ _)

/-- The classes come in the order of their first rows. -/
theorem firsts_sublist (schema : Schema) (columns : List String) (entries : List (RowId × Row)) :
    (firsts schema columns entries).Sublist entries := by
  induction entries using induction_on_classes schema columns with
  | nil => exact List.Sublist.refl []
  | cons entry entries ih =>
      rw [firsts_cons]
      exact (ih.trans List.filter_sublist).cons_cons entry

/-- Outside of one class, all other classes are whole. -/
theorem classOf_othersOf {row other : Row} (apart : ¬ other.GroupsWith schema columns row) :
    classOf schema columns (othersOf schema columns entries row) other =
      classOf schema columns entries other := by
  rw [classOf, classOf, othersOf, List.filter_filter]
  refine List.filter_congr fun entry _ => ?_
  rw [Bool.eq_iff_iff, Bool.and_eq_true, decide_eq_true_eq, decide_eq_true_eq, and_iff_left_iff_imp]
  exact fun alike alike' => apart (alike.symm.trans alike')

theorem classOf_cons_of_apart {row : Row} (apart : ¬ entry.2.GroupsWith schema columns row) :
    classOf schema columns (entry :: entries) row = classOf schema columns entries row :=
  List.filter_cons_of_neg (by rwa [decide_eq_true_eq])

theorem classOf_cons_self : classOf schema columns (entry :: entries) entry.2 =
    entry :: classOf schema columns entries entry.2 :=
  List.filter_cons_of_pos (decide_eq_true (Row.GroupsWith.refl _))

/-- The class of a later row, found among all rows and outside of the first one's
class. -/
theorem classOf_cons_of_mem_firsts
    (member : first ∈ firsts schema columns (othersOf schema columns entries entry.2)) :
    classOf schema columns (entry :: entries) first.2 =
      classOf schema columns (othersOf schema columns entries entry.2) first.2 := by
  have apart : ¬ first.2.GroupsWith schema columns entry.2 :=
    of_decide_eq_true (List.mem_filter.mp ((firsts_sublist _ _ _).subset member)).2
  rw [classOf_othersOf apart, classOf_cons_of_apart fun alike => apart alike.symm]

/-- The first row's class, and the classes of the rows outside of it. -/
theorem map_firsts_cons {α : Type} (show' : RowId × Row → List (RowId × Row) → α) :
    ((firsts schema columns (entry :: entries)).map fun first =>
        show' first (classOf schema columns (entry :: entries) first.2)) =
      show' entry (entry :: classOf schema columns entries entry.2) ::
        (firsts schema columns (othersOf schema columns entries entry.2)).map fun first =>
          show' first (classOf schema columns (othersOf schema columns entries entry.2) first.2) := by
  rw [firsts_cons, List.map_cons, classOf_cons_self]
  congr 1
  exact List.map_congr_left fun first member => by rw [classOf_cons_of_mem_firsts member]

/-- The first row of a class begins it. -/
theorem head_classOf (member : first ∈ firsts schema columns entries) :
    (classOf schema columns entries first.2).head? = some first := by
  induction entries using induction_on_classes schema columns with
  | nil => cases member
  | cons entry entries ih =>
      rw [firsts_cons] at member
      rcases List.mem_cons.mp member with rfl | later
      · rw [classOf_cons_self, List.head?_cons]
      · rw [classOf_cons_of_mem_firsts later]
        exact ih later

/-- Each row is grouped with one that begins a class. -/
theorem exists_first (schema : Schema) (columns : List String) (member : entry ∈ entries) :
    ∃ first ∈ firsts schema columns entries, entry.2.GroupsWith schema columns first.2 := by
  induction entries using induction_on_classes schema columns with
  | nil => cases member
  | cons head entries ih =>
      rw [firsts_cons]
      by_cases alike : entry.2.GroupsWith schema columns head.2
      · exact ⟨head, List.mem_cons_self, alike⟩
      · have later : entry ∈ othersOf schema columns entries head.2 := by
          rcases List.mem_cons.mp member with rfl | inside
          · exact absurd (Row.GroupsWith.refl _) alike
          · exact List.mem_filter.mpr ⟨inside, decide_eq_true alike⟩
        obtain ⟨first, among, alike'⟩ := ih later
        exact ⟨first, List.mem_cons_of_mem _ among, alike'⟩

/-- Every row is in the class of exactly one first row. -/
theorem existsUnique_first (member : entry ∈ entries) :
    ∃! first, first ∈ firsts schema columns entries ∧
      entry.2.GroupsWith schema columns first.2 := by
  obtain ⟨first, among, alike⟩ := exists_first schema columns member
  refine ⟨first, ⟨among, alike⟩, fun other ⟨among', alike'⟩ => ?_⟩
  have classes : classOf schema columns entries other.2 = classOf schema columns entries first.2 := by
    refine List.filter_congr fun third _ => decide_eq_decide.mpr ⟨fun joins => ?_, fun joins => ?_⟩
    · exact (joins.trans alike'.symm).trans alike
    · exact (joins.trans alike.symm).trans alike'
  have heads := (head_classOf among').symm.trans (classes ▸ head_classOf among)
  exact Option.some.inj heads

/-- Every row is counted in one class. -/
theorem sum_length_classOf (schema : Schema) (columns : List String)
    (entries : List (RowId × Row)) :
    ((firsts schema columns entries).map fun first =>
      (classOf schema columns entries first.2).length).sum = entries.length := by
  induction entries using induction_on_classes schema columns with
  | nil => rfl
  | cons entry entries ih =>
      have whole : entries.length = (classOf schema columns entries entry.2).length +
          (othersOf schema columns entries entry.2).length := by
        rw [classOf, othersOf, ← List.countP_eq_length_filter, ← List.countP_eq_length_filter,
          List.length_eq_countP_add_countP fun other : RowId × Row =>
            decide (other.2.GroupsWith schema columns entry.2)]
        congr 2
        funext other
        simp
      rw [map_firsts_cons fun _ members => members.length, List.sum_cons, ih, List.length_cons,
        List.length_cons, whole]
      omega

end Classes

/-! ### Groups -/

namespace Group

variable {positions : List Nat} {schema : Schema} {columns : List String}
  {entries : List (RowId × Row)}

/-- The rows that are not alike a first group go to the groups behind it. -/
theorem extend_cons {cellsOf : RowId × Row → List Value} (group : Group) (groups : List Group)
    (reads : ∀ entry ∈ entries, positions.mapM (Row.cell entry.2) = .ok (cellsOf entry)) :
    extend positions (group :: groups) entries =
      (extend positions groups (entries.filter fun entry => !alike group.key (cellsOf entry))).map
        fun formed => ⟨group.key, group.rows ++
          entries.filter fun entry => alike group.key (cellsOf entry)⟩ :: formed := by
  induction entries generalizing group groups with
  | nil =>
      rw [List.filter_nil, List.filter_nil, List.append_nil]
      rfl
  | cons entry rest ih =>
      obtain ⟨head, tail⟩ := List.forall_mem_cons.mp reads
      have step : ∀ groups later, extend positions groups (entry :: later) =
          extend positions (addRow (cellsOf entry) entry groups) later := by
        intro groups later
        rw [extend, head]
        rfl
      rw [step, addRow]
      cases joins : alike group.key (cellsOf entry) with
      | true =>
          rw [if_pos rfl, ih _ _ tail]
          simp only [List.filter_cons, joins, Bool.not_true, Bool.false_eq_true, ↓reduceIte,
            List.append_assoc, List.singleton_append]
      | false =>
          rw [if_neg Bool.false_ne_true, ih _ _ tail]
          simp only [List.filter_cons, joins, Bool.not_false, Bool.false_eq_true, ↓reduceIte, step]

/-- The groups of some rows are the classes of their first rows. -/
theorem partition_eq (located : columns.mapM schema.position = .ok positions)
    (typed : ∀ entry ∈ entries, Row.Typed schema.columns entry.2) :
    partition positions entries = .ok ((firsts schema columns entries).map fun first =>
      ⟨columns.map (first.2.cellOf schema), classOf schema columns entries first.2⟩) := by
  induction entries using induction_on_classes schema columns with
  | nil => rfl
  | cons entry entries ih =>
      obtain ⟨head, tail⟩ := List.forall_mem_cons.mp typed
      have reads : ∀ other ∈ entries, positions.mapM (Row.cell other.2) =
          .ok (columns.map (other.2.cellOf schema)) :=
        fun other member => Row.cells_of_typed (tail other member) located
      have start : partition positions (entry :: entries) =
          extend positions [⟨columns.map (entry.2.cellOf schema), [entry]⟩] entries := by
        rw [partition, extend, Row.cells_of_typed head located]
        rfl
      have classes : ∀ other : RowId × Row, alike (columns.map (entry.2.cellOf schema))
          (columns.map (other.2.cellOf schema)) =
            decide (other.2.GroupsWith schema columns entry.2) :=
        fun other => Bool.eq_iff_iff.mpr (Row.alike_iff_groupsWith.trans decide_eq_true_iff.symm)
      have others : (entries.filter fun other => !alike (columns.map (entry.2.cellOf schema))
          (columns.map (other.2.cellOf schema))) = othersOf schema columns entries entry.2 := by
        simp only [classes, othersOf, decide_not]
      have typed' : ∀ other ∈ othersOf schema columns entries entry.2,
          Row.Typed schema.columns other.2 :=
        fun other member => tail other (List.mem_of_mem_filter member)
      rw [start, extend_cons _ _ reads, others, ← partition, ih typed',
        map_firsts_cons fun first members =>
          (⟨columns.map (first.2.cellOf schema), members⟩ : Group)]
      simp only [classes]
      rfl

end Group

end Relational
