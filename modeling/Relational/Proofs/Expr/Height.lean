import Mathlib.Order.Basic
import Mathlib.Order.Lattice
import Relational.Expr

/-!
# Heights of expressions

The height of an expression is the number of nodes on its longest path from the
root to a leaf, which is how deep every function that walks through it recurses.
The grammar counts only some of the steps on such a path: an operand on the left
of an operator or a predicate stays on the level of the whole, and so does the
interval among the arguments of a function, with its amount.  Between two counted
steps a path may take any number of others, so that the height is bounded by the
counted levels and the longest stretch on one of them together.
-/

namespace Relational

namespace Expr

/-- How a part of an expression is reached: on the level of the whole or one
level deeper. -/
inductive Descent where
  | level
  | deeper
deriving DecidableEq

/-- Whether an expression is an interval of time. -/
def isInterval : Expr → Bool
  | .interval _ _ => true
  | _ => false

/-- How an expression in a list of arguments or items is reached. -/
def descent (expression : Expr) : Descent :=
  if expression.isInterval then .level else .deeper

/-- The parts of an expression in the order in which they are written, each with
how it is reached. -/
def parts : Expr → List (Descent × Expr)
  | .column _ => []
  | .literal _ => []
  | .binary _ left right => [(.level, left), (.deeper, right)]
  | .unary _ operand => [(.deeper, operand)]
  | .aggregate _ none _ => []
  | .aggregate _ (some argument) _ => [(.deeper, argument)]
  | .call _ arguments => arguments.map fun argument => (argument.descent, argument)
  | .interval amount _ => [(.level, amount)]
  | .isIn operand items _ => (.level, operand) :: items.map fun item => (item.descent, item)
  | .between operand low high _ => [(.level, operand), (.deeper, low), (.deeper, high)]
  | .like operand pattern _ => [(.level, operand), (.deeper, pattern)]
  | .isNull operand _ => [(.level, operand)]

variable {α : Type}

mutual

/-- A measure of an expression that is computed from the measures of its parts. -/
def measure (combine : List (Descent × α) → α) : Expr → α
  | .column _ => combine []
  | .literal _ => combine []
  | .binary _ left right =>
    combine [(.level, measure combine left), (.deeper, measure combine right)]
  | .unary _ operand => combine [(.deeper, measure combine operand)]
  | .aggregate _ none _ => combine []
  | .aggregate _ (some argument) _ => combine [(.deeper, measure combine argument)]
  | .call _ arguments => combine (measures combine arguments)
  | .interval amount _ => combine [(.level, measure combine amount)]
  | .isIn operand items _ =>
    combine ((.level, measure combine operand) :: measures combine items)
  | .between operand low high _ =>
    combine [(.level, measure combine operand), (.deeper, measure combine low),
      (.deeper, measure combine high)]
  | .like operand pattern _ =>
    combine [(.level, measure combine operand), (.deeper, measure combine pattern)]
  | .isNull operand _ => combine [(.level, measure combine operand)]
termination_by structural expression => expression

/-- The measures of the expressions in a list. -/
def measures (combine : List (Descent × α) → α) : List Expr → List (Descent × α)
  | [] => []
  | expression :: rest =>
    (expression.descent, measure combine expression) :: measures combine rest
termination_by structural expressions => expressions

end

/-- The greatest of some numbers, zero if there are none. -/
def greatest (numbers : List Nat) : Nat :=
  numbers.foldr max 0

/-- The number of nodes on the longest path from the root to a leaf. -/
def height : Expr → Nat :=
  measure fun parts => greatest (parts.map Prod.snd) + 1

/-- The levels that a part adds to its own if it is reached one level deeper. -/
def Descent.below : Descent → Nat → Nat
  | .level, nesting => nesting
  | .deeper, nesting => nesting + 1

/-- The steps that lead on a path from the root without going deeper. -/
def Descent.stretch : Descent → Nat → Nat
  | .level, stretch => stretch + 1
  | .deeper, _ => 0

/-- The greatest number of steps on a path that go one level deeper. -/
def nesting : Expr → Nat :=
  measure fun parts => greatest (parts.map fun part => part.1.below part.2)

/-- The most steps in a row that stay on one level, first those that start at the
root, then those on any path. -/
def stretches : Expr → Nat × Nat :=
  measure fun parts =>
    let fromRoot := greatest (parts.map fun part => part.1.stretch part.2.1)
    (fromRoot, max fromRoot (greatest (parts.map fun part => part.2.2)))

/-- The most steps in a row that stay on one level. -/
def longestStretch (expression : Expr) : Nat :=
  expression.stretches.2

/-! ### Parts -/

/-- The measures of a list of parts are those of its members. -/
theorem measures_eq (combine : List (Descent × α) → α) (expressions : List Expr) :
    measures combine expressions =
      expressions.map fun part => (part.descent, measure combine part) := by
  induction expressions with
  | nil => rfl
  | cons expression rest ih => rw [measures, ih, List.map_cons]

/-- A measure is computed from those of the parts. -/
theorem measure_eq (combine : List (Descent × α) → α) (expression : Expr) :
    measure combine expression =
      combine (expression.parts.map fun part => (part.1, measure combine part.2)) := by
  cases expression with
  | aggregate function argument distinct => cases argument <;> rfl
  | call function arguments =>
      rw [measure, parts, measures_eq, List.map_map]
      rfl
  | isIn operand items negated =>
      rw [measure, parts, measures_eq, List.map_cons, List.map_map]
      rfl
  | _ => rfl

/-- A part is smaller than the whole. -/
theorem sizeOf_lt_of_mem_parts {expression : Expr} {part : Descent × Expr}
    (member : part ∈ expression.parts) : sizeOf part.2 < sizeOf expression := by
  cases expression with
  | column name => cases member
  | literal value => cases member
  | aggregate function argument distinct =>
      cases argument with
      | none => cases member
      | some argument =>
          rw [List.mem_singleton.mp member]
          simp
          omega
  | call function arguments =>
      obtain ⟨argument, among, rfl⟩ := List.mem_map.mp member
      have smaller := List.sizeOf_lt_of_mem among
      simp
      omega
  | isIn operand items negated =>
      rcases List.mem_cons.mp member with rfl | member
      · simp
        omega
      · obtain ⟨item, among, rfl⟩ := List.mem_map.mp member
        have smaller := List.sizeOf_lt_of_mem among
        simp
        omega
  | _ =>
      simp only [parts, List.mem_cons, List.not_mem_nil, or_false] at member
      rcases member with rfl | rfl | rfl <;>
        simp only [binary.sizeOf_spec, unary.sizeOf_spec, interval.sizeOf_spec,
          between.sizeOf_spec, like.sizeOf_spec, isNull.sizeOf_spec] <;>
        omega

/-- The nodes of a list of expressions are those of its members. -/
theorem nodesOfList_eq (expressions : List Expr) :
    nodesOfList expressions = expressions.flatMap nodes := by
  induction expressions with
  | nil => rfl
  | cons expression rest ih => rw [nodesOfList, ih, List.flatMap_cons]

/-- The nodes of an expression are itself and those of its parts. -/
theorem nodes_eq (expression : Expr) :
    expression.nodes = expression :: expression.parts.flatMap fun part => part.2.nodes := by
  cases expression with
  | aggregate function argument distinct => cases argument <;> simp [nodes, parts]
  | _ => simp [nodes, parts, nodesOfList_eq, List.flatMap_map]

theorem self_mem_nodes (expression : Expr) : expression ∈ expression.nodes := by
  rw [nodes_eq]
  exact List.mem_cons_self

/-- The nodes of a part are nodes of the whole. -/
theorem nodes_subset_of_mem_parts {expression : Expr} {part : Descent × Expr}
    (member : part ∈ expression.parts) : part.2.nodes ⊆ expression.nodes := by
  intro node inside
  rw [nodes_eq expression]
  exact List.mem_cons_of_mem _ (List.mem_flatMap.mpr ⟨part, member, inside⟩)

/-- What holds of an expression whenever it holds of its parts holds of every
expression. -/
theorem induction_on_parts {motive : Expr → Prop}
    (step : ∀ expression, (∀ part ∈ expression.parts, motive part.2) → motive expression)
    (expression : Expr) : motive expression := by
  induction bound : sizeOf expression using Nat.strong_induction_on generalizing expression with
  | _ size ih =>
      apply step
      intro part member
      exact ih _ (bound ▸ sizeOf_lt_of_mem_parts member) part.2 rfl

/-! ### Measures of the parts -/

variable {expression : Expr} {part : Descent × Expr} {bound : Nat}

/-- The greatest number is within a bound exactly if all numbers are. -/
theorem greatest_le_iff {numbers : List Nat} :
    greatest numbers ≤ bound ↔ ∀ number ∈ numbers, number ≤ bound := by
  induction numbers with
  | nil => simp [greatest]
  | cons number rest ih =>
      rw [greatest, List.foldr_cons, Nat.max_le, List.forall_mem_cons]
      exact and_congr_right fun _ => ih

theorem le_greatest_map {items : List α} {item : α} (member : item ∈ items) (size : α → Nat) :
    size item ≤ greatest (items.map size) :=
  greatest_le_iff.mp le_rfl _ (List.mem_map_of_mem member)

/-- An expression is one higher than its highest part. -/
theorem height_eq (expression : Expr) :
    expression.height = greatest (expression.parts.map fun part => part.2.height) + 1 := by
  rw [height, measure_eq, List.map_map]
  rfl

/-- An expression is nested as deeply as its parts are below it. -/
theorem nesting_eq (expression : Expr) : expression.nesting =
    greatest (expression.parts.map fun part => part.1.below part.2.nesting) := by
  rw [nesting, measure_eq, List.map_map]
  rfl

/-- The stretches of an expression are made up of those of its parts. -/
theorem stretches_eq (expression : Expr) :
    let fromRoot := greatest (expression.parts.map fun part => part.1.stretch part.2.stretches.1)
    expression.stretches = (fromRoot, max fromRoot
      (greatest (expression.parts.map fun part => part.2.longestStretch))) := by
  rw [stretches, measure_eq, List.map_map, List.map_map]
  rfl

theorem height_pos (expression : Expr) : 0 < expression.height := by
  rw [height_eq]
  exact Nat.succ_pos _

theorem height_lt_of_mem_parts (member : part ∈ expression.parts) :
    part.2.height < expression.height := by
  rw [height_eq expression]
  exact Nat.lt_succ_of_le (le_greatest_map member fun part => part.2.height)

theorem nesting_le_iff : expression.nesting ≤ bound ↔
    ∀ part ∈ expression.parts, part.1.below part.2.nesting ≤ bound := by
  rw [nesting_eq, greatest_le_iff, List.forall_mem_map]

theorem below_le_nesting (member : part ∈ expression.parts) :
    part.1.below part.2.nesting ≤ expression.nesting :=
  nesting_le_iff.mp le_rfl part member

/-- The stretch from a part, counted from the whole, is no longer than the one from the
whole. -/
theorem stretch_le (member : part ∈ expression.parts) :
    part.1.stretch part.2.stretches.1 ≤ expression.stretches.1 := by
  rw [stretches_eq expression]
  exact le_greatest_map member fun part => part.1.stretch part.2.stretches.1

/-- The stretch from the root is no longer than the longest one. -/
theorem stretch_le_longestStretch (expression : Expr) :
    expression.stretches.1 ≤ expression.longestStretch := by
  rw [longestStretch, stretches_eq]
  exact le_max_left _ _

/-- The longest stretch in a part is no longer than the one in the whole. -/
theorem longestStretch_le_of_mem_parts (member : part ∈ expression.parts) :
    part.2.longestStretch ≤ expression.longestStretch := by
  rw [longestStretch.eq_def expression, stretches_eq expression]
  exact (le_greatest_map member fun part => part.2.longestStretch).trans (le_max_right _ _)

/-- A path has as many whole stretches as it has steps that go deeper, and one
more that starts at the root. -/
theorem height_le_add (expression : Expr) (within : expression.longestStretch ≤ bound) :
    expression.height ≤ expression.nesting * (bound + 1) + expression.stretches.1 + 1 := by
  induction expression using induction_on_parts with
  | step expression ih =>
      rw [height_eq, Nat.add_le_add_iff_right, greatest_le_iff]
      refine List.forall_mem_map.mpr fun part member => ?_
      have within' := (longestStretch_le_of_mem_parts member).trans within
      have below := below_le_nesting member
      have stretch := stretch_le member
      refine (ih part member within').trans ?_
      obtain ⟨descent, part⟩ := part
      cases descent with
      | level =>
          have levels : part.nesting * (bound + 1) ≤ expression.nesting * (bound + 1) :=
            Nat.mul_le_mul_right _ below
          rw [Nat.add_assoc]
          exact Nat.add_le_add levels stretch
      | deeper =>
          have levels : (part.nesting + 1) * (bound + 1) ≤ expression.nesting * (bound + 1) :=
            Nat.mul_le_mul_right _ below
          have short : part.stretches.1 ≤ bound := (stretch_le_longestStretch part).trans within'
          rw [Nat.succ_mul] at levels
          exact (Nat.add_le_add_left (Nat.succ_le_succ short) _).trans
            (levels.trans (Nat.le_add_right _ _))

/-- The height is at most the number of levels times the number of nodes on the
longest stretch of one level. -/
theorem height_le_levels_mul (expression : Expr) :
    expression.height ≤ (expression.nesting + 1) * (expression.longestStretch + 1) := by
  have bounded := height_le_add expression le_rfl
  have short := stretch_le_longestStretch expression
  rw [Nat.succ_mul]
  omega

end Expr

end Relational
