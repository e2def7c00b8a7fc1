import Relational.Grammar.Statement
import Relational.Proofs.Grammar.Parts

/-!
# Properties of all parsers

The grammar is made of few simple parsers, which it puts in sequence and chooses from by
the terminals in front.  A property that the simple parsers have and that a sequence has
if all its members do is therefore a property of every rule.  What the rules have in
common is gone through once here, for any such property.

Two parsers are bounded by the number of tokens, that of expressions and that of columns.
A property for which a bound makes no difference holds of these as well; for another one
they are left to whoever proves it.
-/

namespace Relational

namespace Grammar

/-- A property that the simple parsers have which refuse nothing but another terminal, and
sequences of parsers that have it. -/
structure Composable (property : ∀ {α : Type}, Parser α → Prop) : Prop where
  pure : ∀ {α : Type} (value : α), property (Pure.pure value : Parser α)
  bind : ∀ {α β : Type} {first : Parser α} {next : α → Parser β}, property first →
    (∀ value, property (next value)) → property (first >>= next)
  look : property look
  advance : property advance
  accept : ∀ terminal, property (accept terminal)
  expect : ∀ terminal, property (expect terminal)

/-- A composable property of the other simple parsers and of lists of parsers that have
it.  Refusing for want of an expression is set apart, since that is also how a parser
refuses whose steps are spent. -/
structure Sequential (property : ∀ {α : Type}, Parser α → Prop) : Prop
    extends Composable property where
  refuse : ∀ {α : Type} {wanted : Wanted}, wanted ≠ .expression →
    property (Parser.refuse wanted : Parser α)
  list : ∀ {α : Type} {item : Parser α}, property item → property (list item)

variable {property : ∀ {α : Type}, Parser α → Prop} {α : Type}
  {expression : Nat → Parser Expr} {operand : Parser Expr}

namespace Sequential

variable (closed : Sequential property)

include closed

/-- Accepting a terminal where it is possible has the property. -/
theorem acceptIf (possible : Bool) (terminal : Terminal) :
    property (acceptIf possible terminal) := by
  cases possible with
  | true => exact closed.accept terminal
  | false => exact closed.pure false

/-- Reading a name has the property. -/
theorem name : property name := by
  refine closed.bind closed.look ?_
  rintro ⟨first, second⟩
  split
  · exact closed.bind closed.advance fun _ => closed.pure _
  · split
    · exact closed.advance
    · exact closed.refuse nofun
  · exact closed.refuse nofun

/-- Reading a natural number has the property. -/
theorem natural : property natural := by
  refine closed.bind closed.look ?_
  rintro ⟨first, second⟩
  split
  · split
    · exact closed.bind closed.advance fun _ => closed.pure _
    · exact closed.refuse nofun
  · exact closed.refuse nofun

/-- What may follow a keyword has the property if the content has it. -/
theorem optional (keyword : Keyword) {content : Parser α} (holds : property content) :
    property (optional keyword content) := by
  refine closed.bind (closed.accept _) fun present => ?_
  split
  · exact closed.bind holds fun _ => closed.pure _
  · exact closed.pure _

/-! ### Parts of expressions -/

theorem literal (leaf : Expr) : property (Grammar.advance >>= fun _ => Pure.pure leaf) :=
  closed.bind closed.advance fun _ => closed.pure leaf

theorem columnName : property (Grammar.name >>= fun s => Pure.pure (Expr.column s)) :=
  closed.bind closed.name fun _ => closed.pure _

theorem nullTest (operand : Expr) : property (nullTest operand) :=
  closed.bind (closed.accept _) fun _ => closed.bind (closed.expect _) fun _ => closed.pure _

section

variable (inner : ∀ least, property (expression least)) (operand : Expr) (negated : Bool)

include inner

theorem membership : property (membership expression operand negated) :=
  closed.bind (closed.expect _) fun _ => closed.bind (closed.list (inner 1)) fun _ =>
    closed.bind (closed.expect _) fun _ => closed.pure _

theorem likeness : property (likeness expression operand negated) :=
  closed.bind (inner _) fun _ => closed.pure _

theorem range : property (range expression operand negated) :=
  closed.bind (inner _) fun _ => closed.bind (closed.expect _) fun _ =>
    closed.bind (inner _) fun _ => closed.pure _

/-- Reading what continues a negated predicate has the property. -/
theorem continuation : property (continuation expression operand negated) := by
  refine closed.bind (closed.accept _) fun among => ?_
  split
  · exact closed.membership inner operand negated
  · refine closed.bind (closed.accept _) fun alike => ?_
    split
    · exact closed.likeness inner operand negated
    · refine closed.bind (closed.accept _) fun ranged => ?_
      split
      · exact closed.range inner operand negated
      · exact closed.refuse nofun

end

/-- Reading a predicate has the property if expressions have it. -/
theorem predicate (inner : ∀ least, property (expression least)) (left : Expr) :
    property (predicate expression left) := by
  rw [predicate_eq]
  refine closed.bind (closed.accept _) fun tested => ?_
  split
  · exact closed.nullTest left
  · exact closed.bind (closed.accept _) (closed.continuation inner left)

/-- Reading the argument of an aggregate has the property if expressions have it. -/
theorem aggregated (inner : ∀ least, property (expression least)) (function : AggregateFunction) :
    property (aggregated expression function) := by
  refine closed.bind (closed.acceptIf _ _) fun countsRows => ?_
  split
  · exact closed.bind (closed.expect _) fun _ => closed.pure _
  · exact closed.bind (closed.accept _) fun distinct => closed.bind (inner 1) fun argument =>
      closed.bind (closed.expect _) fun _ => closed.pure _

/-- Reading the unit of an interval has the property. -/
theorem intervalUnit (amount : Expr) : property (intervalUnit amount) := by
  refine closed.bind closed.look ?_
  rintro ⟨first, second⟩
  split
  · split
    · exact closed.bind closed.advance fun _ => closed.pure _
    · exact closed.refuse nofun
  · exact closed.refuse nofun

/-- Reading an argument of a call has the property. -/
theorem argument (inner : ∀ least, property (expression least)) (same : property operand)
    (function : ScalarFunction) (position : Nat) :
    property (argument expression operand function position) := by
  refine closed.bind (closed.acceptIf _ _) fun isInterval => ?_
  split
  · exact closed.bind same closed.intervalUnit
  · exact inner 1

/-- Checking the number of arguments has the property. -/
theorem counted (function : ScalarFunction) (arguments : List Expr) :
    property (counted function arguments) := by
  unfold Grammar.counted
  split
  · exact closed.refuse nofun
  · split
    · exact closed.refuse nofun
    · exact closed.bind (closed.expect _) fun _ => closed.pure _

/-- Reading a call has the property if the lists of arguments have it. -/
theorem functionCall
    (listed : ∀ function, property (argumentList expression operand function)) (name : String) :
    property (functionCall expression operand name) := by
  cases known : ScalarFunction.ofName? name with
  | none =>
      unfold Grammar.functionCall
      rw [known]
      exact closed.refuse nofun
  | some function =>
      rw [functionCall_eq known]
      exact closed.bind closed.advance fun _ => closed.bind (closed.expect _) fun _ =>
        closed.bind (listed function) (closed.counted function)

/-- A keyword names an aggregate function in front of a parenthesis, else a column. -/
theorem called (inner : ∀ least, property (expression least)) (word : Keyword)
    (second : Terminal) :
    property (match aggregateFunction? word, second with
      | some function, .symbol .leftParen => aggregateCall expression function
      | _, _ => Grammar.name >>= fun s => Pure.pure (Expr.column s)) := by
  split
  · rw [aggregateCall_eq]
    exact closed.bind closed.advance fun _ => closed.bind (closed.expect _) fun _ =>
      closed.aggregated inner _
  · exact closed.columnName

/-! ### Statements -/

section

variable (whole : property Grammar.expression)

include whole

/-- Reading a query has the property. -/
theorem select : property select := by
  have labelled : property label := by
    refine closed.bind (closed.accept _) fun named => ?_
    split
    · exact closed.bind closed.name fun chosen => closed.pure _
    · refine closed.bind closed.look ?_
      rintro ⟨first, second⟩
      split
      · exact closed.bind closed.advance fun _ => closed.pure _
      · exact closed.pure _
  have item : property selectItem := by
    refine closed.bind (closed.accept _) fun star => ?_
    split
    · exact closed.pure _
    · exact closed.bind whole fun value => closed.bind labelled fun chosen => closed.pure _
  have sorted : property sortItem := by
    refine closed.bind closed.name fun column => closed.bind (closed.accept _) fun descending => ?_
    split
    · exact closed.pure _
    · exact closed.bind (closed.accept _) fun _ => closed.pure _
  exact closed.bind (closed.expect _) fun _ => closed.bind (closed.list item) fun items =>
    closed.bind (closed.expect _) fun _ => closed.bind closed.name fun table =>
    closed.bind (closed.optional _ whole) fun filter =>
    closed.bind (closed.optional _ (closed.bind (closed.expect _) fun _ =>
      closed.list closed.name)) fun groupBy =>
    closed.bind (closed.optional _ whole) fun having =>
    closed.bind (closed.optional _ (closed.bind (closed.expect _) fun _ =>
      closed.list sorted)) fun orderBy =>
    closed.bind (closed.optional _ closed.natural) fun limit =>
    closed.bind (closed.optional _ closed.natural) fun offset => closed.pure _

/-- Reading an insertion has the property. -/
theorem insert : property insert :=
  closed.bind (closed.expect _) fun _ => closed.bind (closed.expect _) fun _ =>
    closed.bind closed.name fun _ => closed.bind (closed.expect _) fun _ =>
    closed.bind (closed.list closed.name) fun _ => closed.bind (closed.expect _) fun _ =>
    closed.bind (closed.expect _) fun _ => closed.bind (closed.expect _) fun _ =>
    closed.bind (closed.list whole) fun _ => closed.bind (closed.expect _) fun _ =>
    closed.pure _

/-- Reading an update has the property. -/
theorem update : property update := by
  have assigned : property assignment :=
    closed.bind closed.name fun column => closed.bind (closed.expect _) fun _ =>
      closed.bind whole fun value => closed.pure _
  exact closed.bind (closed.expect _) fun _ => closed.bind closed.name fun table =>
    closed.bind (closed.expect _) fun _ => closed.bind (closed.list assigned) fun assignments =>
    closed.bind (closed.optional _ whole) fun filter => closed.pure _

theorem delete : property delete :=
  closed.bind (closed.expect _) fun _ => closed.bind (closed.expect _) fun _ =>
    closed.bind closed.name fun _ => closed.bind (closed.optional _ whole) fun _ => closed.pure _

end

/-- Reading the type of a column has the property. -/
theorem columnType : property columnType := by
  have size : property typeSize := by
    refine closed.bind (closed.accept _) fun sized => ?_
    split
    · refine closed.bind closed.natural fun _ => closed.bind (closed.accept _) fun scaled => ?_
      split
      · exact closed.bind closed.natural fun _ => closed.expect _
      · exact closed.expect _
    · exact closed.pure ()
  have consumed (type : ColumnType) : property (columnType.consumed type) :=
    closed.bind closed.advance fun _ => closed.bind size fun _ => closed.pure type
  refine closed.bind closed.look ?_
  rintro ⟨first, second⟩
  dsimp only
  split
  · exact consumed _
  · exact consumed _
  · exact consumed _
  · exact consumed _
  · exact closed.refuse nofun

/-- Reading the options of a column has the property. -/
theorem columnOptions (keyDeclared : Bool) (steps : Nat) (column : Column) :
    property (columnOptions keyDeclared steps column) := by
  induction steps generalizing column with
  | zero => exact closed.pure column
  | succ steps ih =>
      refine closed.bind closed.look ?_
      rintro ⟨first, second⟩
      dsimp only
      split
      · split
        · exact closed.refuse nofun
        · exact closed.bind closed.advance fun _ => closed.bind (closed.expect _) fun _ => ih _
      · split
        · exact closed.refuse nofun
        · exact closed.bind closed.advance fun _ => closed.bind closed.name fun table =>
            closed.bind (closed.expect _) fun _ => closed.bind closed.name fun target =>
            closed.bind (closed.expect _) fun _ => ih _
      · exact closed.pure column

theorem column (keyDeclared : Bool) : property (column keyDeclared) :=
  closed.bind closed.name fun _ => closed.bind closed.columnType fun _ =>
    closed.columnOptions keyDeclared 3 _

/-- Reading the declaration of an index has the property. -/
theorem createIndex : property createIndex :=
  closed.bind (closed.expect _) fun _ => closed.bind closed.name fun _ =>
    closed.bind (closed.expect _) fun _ => closed.bind closed.name fun _ =>
    closed.bind (closed.expect _) fun _ => closed.bind closed.name fun _ =>
    closed.bind (closed.expect _) fun _ => closed.pure _

section

variable (declared : property fun tokens => columns (tokens.length + 1) false tokens)
  (checked : ∀ table columns, property (schemaOf table columns))

include declared checked

/-- Reading the declaration of a table has the property. -/
theorem createTable : property createTable := by
  refine closed.bind (closed.expect _) fun _ => closed.bind closed.name fun table =>
    closed.bind (closed.expect _) fun _ => closed.bind declared fun columns =>
    closed.bind closed.look ?_
  rintro ⟨first, second⟩
  dsimp only
  split
  · exact closed.refuse nofun
  · exact closed.bind (closed.expect _) fun _ => checked table columns

/-- Reading what is to be created has the property. -/
theorem create : property create := by
  refine closed.bind (closed.expect _) fun _ => closed.bind closed.look ?_
  rintro ⟨first, second⟩
  dsimp only
  split
  · exact closed.bind (closed.createTable declared checked) fun _ => closed.pure _
  · exact closed.bind closed.createIndex fun _ => closed.pure _
  · exact closed.refuse nofun

/-- The property holds of the rule for whole texts if it holds of expressions and of the
columns of a table. -/
theorem onlyStatement (whole : property Grammar.expression) : property onlyStatement := by
  have one : property statement := by
    refine closed.bind closed.look ?_
    rintro ⟨first, second⟩
    dsimp only
    split
    · exact closed.bind (closed.select whole) fun _ => closed.pure _
    · exact closed.bind (closed.insert whole) fun _ => closed.pure _
    · exact closed.bind (closed.update whole) fun _ => closed.pure _
    · exact closed.bind (closed.delete whole) fun _ => closed.pure _
    · exact closed.create declared checked
    · exact closed.bind (closed.expect _) fun _ => closed.bind (closed.expect _) fun _ =>
        closed.bind closed.name fun _ => closed.pure _
    · exact closed.bind (closed.expect _) fun _ => closed.bind (closed.expect _) fun _ =>
        closed.pure _
    · exact closed.refuse nofun
  refine closed.bind one fun read => closed.bind (closed.accept _) fun _ =>
    closed.bind closed.look ?_
  rintro ⟨first, second⟩
  dsimp only
  split
  · exact closed.pure read
  · exact closed.refuse nofun

end

end Sequential

/-! ### Bounded parsers -/

/-- A composable property for which neither a bound nor spent steps make a
difference. -/
structure Boundless (property : ∀ {α : Type}, Parser α → Prop) : Prop
    extends Composable property where
  refuse : ∀ {α : Type} (wanted : Wanted), property (Parser.refuse wanted : Parser α)
  sized : ∀ {α : Type} {parser : Nat → Parser α}, (∀ size, property (parser size)) →
    property fun tokens => parser tokens.length tokens

namespace Boundless

variable (closed : Boundless property)

include closed

/-- Reading a list has the property if each item has it. -/
theorem listFrom {item : Nat → Parser α} (each : ∀ position, property (item position))
    (steps position : Nat) : property (listFrom item steps position) := by
  induction steps generalizing position with
  | zero => exact closed.refuse _
  | succ steps ih =>
      refine closed.bind (each position) fun first => closed.bind (closed.accept _) fun more => ?_
      split
      · exact closed.bind (ih (position + 1)) fun others => closed.pure _
      · exact closed.pure _

/-- The property is kept by sequences. -/
theorem sequential : Sequential property where
  toComposable := closed.toComposable
  refuse _ := closed.refuse _
  list each := closed.sized fun size => closed.listFrom (fun _ => each) (size + 1) 0

/-- Reading operators and their right sides has the property if expressions have it. -/
theorem operators (inner : ∀ least, property (expression least)) (least steps : Nat)
    (left : Expr) : property (operators expression least steps left) := by
  induction steps generalizing left with
  | zero => exact closed.refuse _
  | succ steps ih =>
      refine closed.bind closed.look ?_
      rintro ⟨first, second⟩
      dsimp only
      split
      · split
        · exact closed.pure _
        · exact closed.bind (closed.sequential.predicate inner left) fun predicated => ih predicated
      · split
        · exact closed.pure _
        · split
          · exact closed.pure _
          · exact closed.bind closed.advance fun _ => closed.bind (inner _) fun right => ih _

/-- Reading the arguments of a call has the property if expressions and operands have it. -/
theorem argumentList (inner : ∀ least, property (expression least)) (same : property operand)
    (function : ScalarFunction) : property (argumentList expression operand function) := by
  have chosen (first : Terminal) : property fun tokens =>
      if first = .symbol .rightParen then .ok ([], tokens)
      else
        Grammar.listFrom (argument expression operand function) (tokens.length + 1) 0 tokens := by
    by_cases here : first = .symbol .rightParen
    · simp only [if_pos here]
      exact closed.pure []
    · simp only [if_neg here]
      exact closed.sized fun size =>
        closed.listFrom (closed.sequential.argument inner same function) (size + 1) 0
  exact closed.bind closed.look fun seen => chosen seen.1

/-- Reading an operand has the property if expressions and operands below it have it. -/
theorem operandAt {steps depth : Nat} (inner : ∀ least, property (expressionAt steps depth least))
    (operands : ∀ depth, property (operandAt steps depth)) :
    property (operandAt (steps + 1) depth) := by
  have sequential := closed.sequential
  refine closed.bind closed.look ?_
  rintro ⟨first, second⟩
  cases first with
  | integer | float | text => exact sequential.literal _
  | keyword word =>
      have called := sequential.called inner word second
      cases word with
      | trueLiteral | falseLiteral | null => exact sequential.literal _
      | not => exact closed.bind closed.advance fun _ => closed.bind (inner _) fun _ =>
          closed.pure _
      | _ => exact called
  | symbol mark =>
      cases mark with
      | minus =>
          have negated : property (if maxNesting ≤ depth then Parser.refuse .expression
              else Grammar.operandAt steps (depth + 1) >>= fun operand =>
                Pure.pure (Expr.unary .minus operand)) := by
            split
            · exact closed.refuse _
            · exact closed.bind (operands _) fun _ => closed.pure _
          refine closed.bind closed.advance fun _ => ?_
          cases second with
          | integer | float => exact sequential.literal _
          | _ => exact negated
      | leftParen =>
          exact closed.bind closed.advance fun _ => closed.bind (inner 1) fun _ =>
            closed.bind (closed.expect _) fun _ => closed.pure _
      | _ => exact sequential.columnName
  | name s =>
      change property (if second = .symbol .leftParen then _ else _)
      split
      · exact sequential.functionCall (closed.argumentList inner (operands depth)) s
      · exact sequential.columnName
  | _ => exact sequential.columnName

/-- Reading expressions and operands has the property at every depth, by induction on the
steps. -/
theorem nesting (steps : Nat) : (∀ depth least, property (expressionAt steps depth least)) ∧
    ∀ depth, property (Grammar.operandAt steps depth) := by
  induction steps with
  | zero => exact ⟨fun _ _ => closed.refuse _, fun _ => closed.refuse _⟩
  | succ steps ih =>
      obtain ⟨expressions, operands⟩ := ih
      refine ⟨fun depth least => ?_, fun depth => closed.operandAt (expressions depth) operands⟩
      rw [expressionAt]
      split
      · exact closed.refuse _
      · exact closed.bind (operands _) fun left =>
          closed.sized fun size => closed.operators (expressions _) least (size + 1) left

theorem wholeExpression : property Grammar.expression :=
  closed.sized fun size => (closed.nesting (2 * size + 2)).1 0 1

/-- Reading the declarations of columns has the property. -/
theorem columns (steps : Nat) (keyDeclared : Bool) : property (columns steps keyDeclared) := by
  induction steps generalizing keyDeclared with
  | zero => exact closed.refuse _
  | succ steps ih =>
      refine closed.bind (closed.sequential.column keyDeclared) fun first =>
        closed.bind (closed.accept _) fun more => ?_
      split
      · exact closed.bind (ih _) fun others => closed.pure _
      · exact closed.pure _

theorem onlyStatement (checked : ∀ table columns, property (schemaOf table columns)) :
    property onlyStatement :=
  closed.sequential.onlyStatement (closed.sized fun size => closed.columns (size + 1) false)
    checked closed.wholeExpression

end Boundless

end Grammar

end Relational
