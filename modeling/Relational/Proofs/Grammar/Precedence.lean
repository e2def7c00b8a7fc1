import Relational.Proofs.Grammar.Expression

/-!
# Precedence and associativity

A chain of operands with operators between them has exactly one grouped tree: one
in which an operator on the left binds at least as tightly as the operator above
it and an operator on the right binds more tightly.  The parser finds that tree
for every chain.  Its loop keeps a grouped tree of what was read whose root binds
at least as tightly as the operator ahead; its recursion asks for tighter
operators at each level, so there are never more levels than precedences, however
long the chain.
-/

namespace Relational

open Grammar Grammar.Parser

namespace Expr

/-- What stands between the operators of a tree, and the operators, from left to
right. -/
def inorder : Expr → List (Expr ⊕ BinaryOperator)
  | .binary op left right => inorder left ++ .inr op :: inorder right
  | operand => [.inl operand]

/-- The operator at the root of a tree, if there is one. -/
def operator? : Expr → Option BinaryOperator
  | .binary op _ _ => some op
  | _ => none

/-- Every operator on the left binds at least as tightly as the operator above
it, and every operator on the right more tightly. -/
def Grouped : Expr → Prop
  | .binary op left right =>
    (Grouped left ∧ ∀ inner ∈ left.operator?, op.precedence ≤ inner.precedence) ∧
      (Grouped right ∧ ∀ inner ∈ right.operator?, op.precedence < inner.precedence)
  | _ => True

variable {tree other left right : Expr} {op : BinaryOperator} {least : Nat}

/-- Nothing in a grouped tree binds less tightly than its root. -/
theorem Grouped.le_of_mem_inorder (grouped : tree.Grouped)
    (root : ∀ top ∈ tree.operator?, least ≤ top.precedence) (member : .inr op ∈ tree.inorder) :
    least ≤ op.precedence := by
  fun_induction inorder tree generalizing least with
  | case1 top left right lefts rights =>
      have above := root top rfl
      obtain ⟨⟨grouped_left, loose⟩, grouped_right, tight⟩ := grouped
      rcases List.mem_append.mp member with inside | inside
      · exact above.trans (lefts grouped_left loose inside)
      · rcases List.mem_cons.mp inside with here | inside
        · cases here
          exact above
        · apply above.trans
          apply rights grouped_right _ inside
          exact fun inner among => (tight inner among).le
  | case2 operand single => cases List.mem_singleton.mp member

/-- The operator of one grouped tree cannot stand to the right of the operator of
another one that is written alike. -/
theorem Grouped.not_beyond {left' right' : Expr} {op' : BinaryOperator}
    {between : List (Expr ⊕ BinaryOperator)} (grouped : (binary op left right).Grouped)
    (grouped' : (binary op' left' right').Grouped)
    (written : left'.inorder = left.inorder ++ .inr op :: between)
    (written' : right.inorder = between ++ .inr op' :: right'.inorder) : False := by
  obtain ⟨-, grouped_right, tight⟩ := grouped
  obtain ⟨⟨grouped_left, loose⟩, -⟩ := grouped'
  have tighter : op.precedence + 1 ≤ op'.precedence := by
    apply grouped_right.le_of_mem_inorder tight
    rw [written']
    exact List.mem_append_right _ List.mem_cons_self
  have looser : op'.precedence ≤ op.precedence := by
    apply grouped_left.le_of_mem_inorder loose
    rw [written]
    exact List.mem_append_right _ List.mem_cons_self
  omega

/-- A binary expression is more than a single operand. -/
theorem inorder_binary_ne (op : BinaryOperator) (left right : Expr) (operand : Expr) :
    (binary op left right).inorder ≠ [.inl operand] := by
  intro single
  have member : .inr op ∈ (binary op left right).inorder :=
    List.mem_append_right _ List.mem_cons_self
  rw [single] at member
  cases List.mem_singleton.mp member

/-- Only one grouped tree is written in a given way. -/
theorem Grouped.unique (grouped : tree.Grouped) (grouped' : other.Grouped)
    (written : other.inorder = tree.inorder) : other = tree := by
  fun_induction inorder tree generalizing other with
  | case1 op left right lefts rights =>
      cases other with
      | binary op' left' right' =>
          rcases List.append_eq_append_iff.mp written with
            ⟨between, longer, shorter⟩ | ⟨between, shorter, longer⟩
          · cases between with
            | nil =>
                obtain ⟨same, behind⟩ := List.cons.inj shorter
                cases same
                rw [List.append_nil] at longer
                rw [lefts grouped.1.1 grouped'.1.1 longer.symm,
                  rights grouped.2.1 grouped'.2.1 behind]
            | cons first between =>
                obtain ⟨rfl, behind⟩ := List.cons.inj shorter
                exact (grouped'.not_beyond grouped longer behind).elim
          · cases between with
            | nil =>
                obtain ⟨same, behind⟩ := List.cons.inj longer
                cases same
                rw [List.append_nil] at shorter
                rw [lefts grouped.1.1 grouped'.1.1 shorter,
                  rights grouped.2.1 grouped'.2.1 behind.symm]
            | cons first between =>
                obtain ⟨rfl, behind⟩ := List.cons.inj longer
                exact (grouped.not_beyond grouped' shorter behind).elim
      | _ => exact absurd written.symm (inorder_binary_ne op left right _)
  | case2 operand atomic =>
      cases other with
      | binary op' left' right' => exact absurd written (inorder_binary_ne op' left' right' _)
      | _ => exact Sum.inl.inj (List.singleton_inj.mp written)

end Expr

namespace Grammar

/-! ### Chains -/

/-- The operand that a single terminal is. -/
def atom? : Terminal → Option Expr
  | .name s => some (.column s)
  | .integer n => some (.literal (.integer n))
  | .float x => some (.literal (.float x))
  | .text s => some (.literal (.text s))
  | _ => none

/-- What a terminal of a chain stands for: an operand or an operator. -/
def item? (terminal : Terminal) : Option (Expr ⊕ BinaryOperator) :=
  match atom? terminal with
  | some operand => some (.inl operand)
  | none => (binaryOperator? terminal).map .inr

/-- The links of a chain as they are written: each is an operator and the operand
behind it. -/
def linked (links : List (BinaryOperator × Terminal)) : List Terminal :=
  links.flatMap fun link => [link.1.terminal, link.2]

/-- A grouped tree of what was read whose root binds at least as tightly as
`least`. -/
structure Groups (least : Nat) (read : List Terminal) (tree : Expr) : Prop where
  inorder : tree.inorder.map some = read.map item?
  grouped : tree.Grouped
  root : ∀ op ∈ tree.operator?, least ≤ op.precedence

/-- A parser reads as many links of a chain as bind at least as tightly as
`least`, and returns the tree of what was `read` before and of these links. -/
def Gathers (parser : Parser Expr) (least : Nat) (read opening : List Terminal)
    (links : List (BinaryOperator × Terminal)) : Prop :=
  ∃ taken left tree, links = taken ++ left ∧
    parser.Reads (opening ++ linked taken) tree (linked left ++ [.endOfInput]) ∧
    Groups least (read ++ opening ++ linked taken) tree ∧
    ∀ link ∈ left.head?, link.1.precedence < least

variable {least steps depth : Nat} {operand : Terminal} {read : List Terminal} {tree right : Expr}
  {op : BinaryOperator} {link : BinaryOperator × Terminal}
  {links more : List (BinaryOperator × Terminal)} {expression : Nat → Parser Expr}
  {spelling after : List Terminal}

theorem linked_cons (link : BinaryOperator × Terminal) (links : List (BinaryOperator × Terminal)) :
    linked (link :: links) = link.1.terminal :: link.2 :: linked links :=
  rfl

theorem linked_append (taken left : List (BinaryOperator × Terminal)) :
    linked (taken ++ left) = linked taken ++ linked left :=
  List.flatMap_append

/-- Each link of a chain has an operator and an operand. -/
theorem length_linked (links : List (BinaryOperator × Terminal)) :
    (linked links).length = 2 * links.length := by
  induction links with
  | nil => rfl
  | cons link links ih =>
      rw [linked_cons, List.length_cons, List.length_cons, List.length_cons, ih]
      omega

theorem item?_terminal (op : BinaryOperator) : item? op.terminal = some (.inr op) := by
  cases op <;> rfl

theorem precedence_le (op : BinaryOperator) : op.precedence ≤ 5 := by
  cases op <;> decide

/-- What follows a part of a chain cannot open a call. -/
theorem ahead_linked_ne (links : List (BinaryOperator × Terminal)) :
    ahead (linked links ++ [.endOfInput]) ≠ .symbol .leftParen := by
  cases links with
  | nil => nofun
  | cons link links =>
      obtain ⟨op, operand⟩ := link
      cases op <;> nofun

/-- An atom is read as an operand. -/
theorem operandAt_atom {tree : Expr} (atomic : atom? operand = some tree)
    (apart : ahead after ≠ .symbol .leftParen) :
    (operandAt (steps + 1) depth).Reads [operand] tree after := by
  cases operand with
  | name s =>
      cases atomic
      exact operandAt_column s apart
  | integer n =>
      cases atomic
      exact .look (.advance fun _ => .pure _ after)
  | float x =>
      cases atomic
      exact .look (.advance fun _ => .pure _ after)
  | text s =>
      cases atomic
      exact .look (.advance fun _ => .pure _ after)
  | _ => cases atomic

/-- A single atom groups as its own tree. -/
theorem groups_atom {tree : Expr} (least : Nat) (atomic : atom? operand = some tree) :
    Groups least [operand] tree := by
  cases operand with
  | name | integer | float | text =>
      cases atomic
      exact ⟨rfl, trivial, nofun⟩
  | _ => cases atomic

/-- The tree of an atom has no operator. -/
theorem operator?_atom {tree : Expr} (atomic : atom? operand = some tree) :
    tree.operator? = none := by
  cases operand with
  | name | integer | float | text =>
      cases atomic
      rfl
  | _ => cases atomic

/-- A tree grows by an operator that binds at most as tightly as its root. -/
theorem Groups.binary {read' : List Terminal} (groups : Groups least read tree)
    (behind : Groups (op.precedence + 1) read' right) (loose : least ≤ op.precedence)
    (below : ∀ top ∈ tree.operator?, op.precedence ≤ top.precedence) :
    Groups least (read ++ op.terminal :: read') (.binary op tree right) where
  inorder := by
    rw [Expr.inorder, List.map_append, List.map_cons, groups.inorder, behind.inorder,
      List.map_append, List.map_cons, item?_terminal]
  grouped := ⟨⟨groups.grouped, below⟩, behind.grouped, behind.root⟩
  root := by
    intro top found
    cases found
    exact loose

/-! ### The loop and the recursion -/

/-- An operator that binds less tightly stops. -/
theorem stops_link (binds : link.1.precedence < least) : Stops least link.1.terminal where
  predicate second starts := by
    rw [startsPredicate_terminal] at starts
    cases starts
  operator op denoted := by
    rw [binaryOperator?_terminal] at denoted
    cases denoted
    exact binds

/-- The loop stops in front of a link that binds less tightly, and at the end. -/
theorem stops_linked (binds : ∀ link ∈ links.head?, link.1.precedence < least) :
    Stops least (ahead (linked links ++ [.endOfInput])) := by
  cases links with
  | nil => exact stops_of_none (fun _ => rfl) rfl
  | cons link links => exact stops_link (binds link rfl)

/-- A link whose operator binds tightly enough is read with what its right operand
gathers, and the loop goes on from there. -/
theorem operators_link {operand : Terminal}
    (nested : Gathers (expression (op.precedence + 1)) (op.precedence + 1) [] [operand] more)
    (loose : least ≤ op.precedence) (groups : Groups least read tree)
    (below : ∀ top ∈ tree.operator?, op.precedence ≤ top.precedence)
    (continues : ∀ taken left right, more = taken ++ left →
      Groups least (read ++ op.terminal :: operand :: linked taken) (.binary op tree right) →
      (∀ link ∈ left.head?, link.1.precedence ≤ op.precedence) →
        Gathers (operators expression least steps (.binary op tree right)) least
          (read ++ op.terminal :: operand :: linked taken) [] left) :
    Gathers (operators expression least (steps + 1) tree) least read []
      ((op, operand) :: more) := by
  obtain ⟨taken, left, right, whole, reads, behind, ends⟩ := nested
  have grown := groups.binary behind loose below
  obtain ⟨taken', left', tree', rfl, reads', gathered, ends'⟩ :=
    continues taken left right whole grown fun link first => Nat.le_of_lt_succ (ends link first)
  refine ⟨(op, operand) :: (taken ++ taken'), left', tree', ?_, ?_, ?_, ends'⟩
  · rw [whole, List.cons_append, List.append_assoc]
  · rw [linked_append, List.append_assoc] at reads
    rw [linked_cons, linked_append]
    exact operators_continue loose reads reads'
  · rw [linked_cons, linked_append]
    simpa only [List.append_nil, List.append_assoc, List.cons_append] using gathered

/-- If expressions gather what is left of a chain, then so does the loop, as long
as the operator ahead does not bind more tightly than the root of what was read. -/
theorem operators_gathers
    (nested : ∀ (op : BinaryOperator) (operand : Terminal)
      (more : List (BinaryOperator × Terminal)), least ≤ op.precedence →
      more.length < links.length →
      (atom? operand).isSome → (∀ link ∈ more, (atom? link.2).isSome) →
        Gathers (expression (op.precedence + 1)) (op.precedence + 1) [] [operand] more)
    (operands : ∀ link ∈ links, (atom? link.2).isSome) (enough : links.length < steps)
    (groups : Groups least read tree)
    (below : ∀ link ∈ links.head?, ∀ top ∈ tree.operator?, link.1.precedence ≤ top.precedence) :
    Gathers (operators expression least steps tree) least read [] links := by
  induction steps generalizing links read tree with
  | zero => cases enough
  | succ steps ih =>
      by_cases stopped : ∀ link ∈ links.head?, link.1.precedence < least
      · refine ⟨[], links, tree, rfl, operators_stop (stops_linked stopped), ?_, stopped⟩
        rwa [List.append_nil, linked, List.flatMap_nil, List.append_nil]
      · cases links with
        | nil => exact absurd nofun stopped
        | cons link more =>
            have loose : least ≤ link.1.precedence := by
              apply Nat.le_of_not_lt
              intro binds
              apply stopped
              intro link first
              cases first
              exact binds
            obtain ⟨atomic, others⟩ := List.forall_mem_cons.mp operands
            have gathers := nested link.1 link.2 more loose (Nat.lt_succ_self _) atomic others
            apply operators_link gathers loose groups (below link rfl)
            intro taken left right whole grown ends
            have shorter : left.length ≤ more.length := by
              rw [whole, List.length_append]
              exact Nat.le_add_left _ _
            apply ih
            · intro op operand more loose fewer
              apply nested op operand more loose
              exact Nat.lt_of_lt_of_le fewer (Nat.le_succ_of_le shorter)
            · exact fun link among => others link (whole ▸ List.mem_append_right _ among)
            · exact Nat.lt_of_le_of_lt shorter (Nat.lt_of_succ_lt_succ enough)
            · exact grown
            · intro next first top found
              cases found
              exact ends next first

/-- An expression gathers the links that bind tightly enough.  Each level asks for
more than the one above it, so that the levels cannot run out. -/
theorem expressionAt_gathers (atomic : (atom? operand).isSome)
    (operands : ∀ link ∈ links, (atom? link.2).isSome) (enough : links.length + 2 ≤ steps)
    (within : depth < least) (reachable : least ≤ 6) :
    Gathers (expressionAt steps depth least) least [] [operand] links := by
  induction steps generalizing depth least operand links with
  | zero => omega
  | succ steps ih =>
      obtain ⟨steps, rfl⟩ : ∃ fewer, steps = fewer + 1 := exists_steps (by omega)
      obtain ⟨tree, single⟩ := Option.isSome_iff_exists.mp atomic
      have looped : Gathers (operators (expressionAt (steps + 1) (depth + 1)) least
          ((linked links ++ [Terminal.endOfInput]).length + 1) tree) least [operand] [] links := by
        apply operators_gathers
        · intro op operand more loose fewer atomic operands
          exact ih atomic operands (by omega) (by omega) (Nat.succ_le_succ (precedence_le op))
        · exact operands
        · rw [List.length_append, length_linked]
          omega
        · exact groups_atom least single
        · intro link first top found
          rw [operator?_atom single] at found
          cases found
      obtain ⟨taken, left, whole, rfl, reads, gathered, ends⟩ := looped
      refine ⟨taken, left, whole, rfl, ?_, gathered, ends⟩
      have levels : ¬maxNesting ≤ depth := by unfold maxNesting; omega
      rw [expressionAt, if_neg levels]
      refine .bind (operandAt_atom single ?_) (.counted (fun count =>
        operators (expressionAt (steps + 1) (depth + 1)) least (count + 1) tree) ?_)
      · rw [← List.append_assoc, ← linked_append]
        exact ahead_linked_ne _
      · rw [linked_append, List.append_assoc, List.length_append] at reads
        exact reads

/-- However long a chain of operands and operators is, it is read as a whole, and
as the only grouped tree that is written like it. -/
theorem expression_groups {first : Terminal} {links : List (BinaryOperator × Terminal)}
    {chain : List Token} {last : Token}
    (operands : ∀ operand ∈ first :: links.map Prod.snd, (atom? operand).isSome)
    (spelled : chain.map Token.terminal = first :: linked links)
    (ended : last.terminal = .endOfInput) :
    ∃ tree, Grammar.expression (chain ++ [last]) = .ok (tree, [last]) ∧
      tree.inorder.map some = (first :: linked links).map item? ∧ tree.Grouped ∧
        ∀ other : Expr, other.inorder = tree.inorder → other.Grouped → other = tree := by
  obtain ⟨atomic, others⟩ := List.forall_mem_cons.mp operands
  have enough : links.length + 2 ≤ 2 * (chain ++ [last]).length + 2 := by
    have counted := congrArg List.length spelled
    rw [List.length_map, List.length_cons, length_linked] at counted
    rw [List.length_append]
    omega
  have gathers : Gathers (expressionAt (2 * (chain ++ [last]).length + 2) 0 1) 1 [] [first] links :=
    expressionAt_gathers atomic (fun link among => others link.2 (List.mem_map_of_mem among))
      enough Nat.one_pos (by decide)
  obtain ⟨taken, left, tree, rfl, reads, gathered, ends⟩ := gathers
  have all : left = [] := by
    cases left with
    | nil => rfl
    | cons link left => exact absurd (ends link rfl) (Nat.not_lt.mpr (precedence_pos link.1))
  rw [all, List.append_nil] at spelled ⊢
  rw [all] at reads
  refine ⟨tree, reads chain [last] spelled ?_, gathered.inorder, gathered.grouped, ?_⟩
  · rw [List.map_singleton, ended]
    rfl
  · exact fun other written grouped => gathered.grouped.unique grouped written

/-- Tokens that stand for some terminals, wherever they were written. -/
def bare (terminals : List Terminal) : List Token :=
  terminals.map fun terminal => ⟨terminal, "", .start⟩

/-- The links of `a OR 7 - b * 'x' - c` behind the first operand. -/
def debt : List (BinaryOperator × Terminal) :=
  [(.or, .integer 7), (.subtract, .name "b"), (.multiply, .text "x"), (.subtract, .name "c")]

/-- The product binds most tightly, and the two differences are taken from left to
right. -/
def debtTree : Expr :=
  .binary .or (.column "a")
    (.binary .subtract
      (.binary .subtract (.literal (.integer 7))
        (.binary .multiply (.column "b") (.literal (.text "x"))))
      (.column "c"))

/-- The chain is grouped by precedence, and from the left among equals. -/
theorem debtTree_groups :
    Grammar.expression (bare (.name "a" :: linked debt) ++ [⟨.endOfInput, "", .start⟩]) =
      .ok (debtTree, [⟨.endOfInput, "", .start⟩]) := by
  obtain ⟨tree, read, written, -, unique⟩ :=
    @expression_groups (.name "a") debt (bare (.name "a" :: linked debt))
      ⟨.endOfInput, "", .start⟩ (by decide) rfl rfl
  have alike : debtTree.inorder = tree.inorder := by
    apply List.map_injective_iff.mpr (fun _ _ => Option.some.inj)
    rw [written]
    rfl
  have grouped : debtTree.Grouped := by
    simp [debtTree, Expr.Grouped, Expr.operator?, BinaryOperator.precedence,
      comparisonPrecedence]
  rw [unique debtTree alike grouped]
  exact read

end Grammar

end Relational
