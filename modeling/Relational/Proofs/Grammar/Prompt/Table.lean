import Relational.Proofs.Grammar.Prompt.Call
import Relational.Proofs.Grammar.Prompt.Declaration

/-!
# Prompt reading of table declarations

A table needs exactly one primary key.  A second one is refused where it is marked, and
a table without one is refused at the parenthesis that closes its columns: whatever was
read before, one more column can supply the key or leave it as it is.
-/

namespace Relational

namespace Grammar

variable {table : String} {passed declared : List Column} {steps : Nat} {tokens : List Token}
  {ends : Terminal → Prop}

/-- The end of a table's declaration. -/
def tableEnd (table : String) (declared : List Column) : Parser Schema := do
  let (first, _) ← look
  if !declared.any Column.primaryKey && first == .symbol .rightParen then
    Parser.refuse .primaryKey
  else
    expectSymbol .rightParen
    schemaOf table declared

/-- The columns of a table behind some that were read, and the end of its declaration. -/
def tableRest (table : String) (steps : Nat) (passed : List Column) : Parser Schema := do
  let others ← columns steps (passed.any Column.primaryKey)
  tableEnd table (passed ++ others)

/-- What follows a column of a table. -/
def behindColumn (table : String) (steps : Nat) (passed : List Column) : Parser Schema := do
  if ← accept (.symbol .comma) then
    tableRest table steps passed
  else
    tableEnd table passed

/-! ### The end of a table -/

/-- Checking the columns of a table ends with what the schema comes to. -/
theorem schemaOf_eq (table : String) (declared : List Column) (tokens : List Token) :
    schemaOf table declared tokens = finished (Schema.create table declared) tokens := by
  unfold schemaOf
  cases Schema.create table declared <;> rfl

/-- A declaration with one key is never refused for its syntax. -/
theorem create_innocent (one : declared.countP Column.primaryKey = 1) :
    Innocent (Schema.create table declared) := by
  unfold Schema.create
  rw [one]
  split
  · nofun
  · split <;> nofun

/-- Checking the columns of a table with one key is ready. -/
theorem schemaOf_ready {κ : Type} (one : declared.countP Column.primaryKey = 1) (room : κ → Nat) :
    Ready (schemaOf table declared) (fun _ => schemaOf table declared) room (fun _ => True)
      ends where
  prompt tokens := by
    cases created : Schema.create table declared with
    | ok schema =>
        have read (tail : List Token) : schemaOf table declared tail = .ok (schema, tail) := by
          rw [schemaOf_eq, created]
          rfl
        exact .done (read tokens) (fun _ tail _ _ => read tail) fun _ _ => trivial
    | error error =>
        have refused : schemaOf table declared tokens = .error (.badSchema error) := by
          rw [schemaOf_eq, created]
          rfl
        exact .contradicted refused
  offers := ⟨[], Schema.create table declared, create_innocent one,
    fun _ tail _ _ => schemaOf_eq table declared tail, fun _ _ => trivial⟩

/-- With a key, the declaration of a table is closed and checked. -/
theorem tableEnd_keyed (keyed : declared.any Column.primaryKey) :
    tableEnd table declared = expectSymbol .rightParen >>= fun _ => schemaOf table declared := by
  unfold tableEnd
  rw [keyed]
  rfl

/-- The end of a declaration with one key is ready. -/
theorem tableEnd_ready {κ : Type} (one : declared.countP Column.primaryKey = 1) (room : κ → Nat) :
    Ready (tableEnd table declared) (fun _ => tableEnd table declared) room
      (· = .symbol .rightParen) ends := by
  have keyed : declared.any Column.primaryKey :=
    List.any_eq_true.mpr (List.countP_pos_iff.mp (one ▸ Nat.one_pos))
  rw [tableEnd_keyed keyed]
  exact .expecting (schemaOf_ready one room) rfl

/-- Without a key, the end of a declaration is refused where it stands. -/
theorem tableEnd_refused (keyless : declared.any Column.primaryKey = false) (tokens : List Token) :
    ∃ wanted, tableEnd table declared tokens = .error (.unexpected wanted tokens) := by
  unfold tableEnd
  rw [keyless]
  by_cases here : front tokens = .symbol .rightParen
  · refine ⟨.primaryKey, ?_⟩
    change (if !false && front tokens == _ then _ else _ : Parser Schema) tokens = _
    rw [here]
    rfl
  · refine ⟨.terminal (.symbol .rightParen), ?_⟩
    change (if !false && front tokens == _ then _ else _ : Parser Schema) tokens = _
    rw [beq_false_of_ne here]
    exact bind_of_error (expect_of_ne here)

/-! ### One column after another -/

theorem tableRest_zero (tokens : List Token) :
    tableRest table 0 passed tokens = .error (.unexpected .expression tokens) :=
  rfl

/-- With steps left, another column is read, and what is behind it. -/
theorem tableRest_succ :
    tableRest table (steps + 1) passed = column (passed.any Column.primaryKey) >>= fun first =>
      behindColumn table steps (passed ++ [first]) := by
  unfold tableRest behindColumn
  rw [columns, bind_assoc]
  refine bind_congr fun first => ?_
  rw [bind_assoc]
  refine bind_congr fun more => ?_
  cases more with
  | false => rfl
  | true =>
      have keys : (passed ++ [first]).any Column.primaryKey =
          (passed.any Column.primaryKey || first.primaryKey) := by
        simp only [List.any_append, List.any_cons, List.any_nil, Bool.or_false]
      change (columns steps _ >>= _) >>= _ = tableRest table steps (passed ++ [first])
      unfold tableRest
      rw [keys, bind_assoc]
      refine bind_congr fun others => ?_
      rw [List.append_assoc]
      rfl

/-- Behind a column of a table with a key, the declaration may be closed. -/
theorem behindColumn_closed {closing : Token} (here : closing.terminal = .symbol .rightParen)
    (keyed : passed.any Column.primaryKey) (steps : Nat) (tail : List Token) :
    behindColumn table steps passed (closing :: tail) =
      finished (Schema.create table passed) tail := by
  have apart : front (closing :: tail) ≠ .symbol .comma := by
    change closing.terminal ≠ _
    rw [here]
    nofun
  apply bind_of_ok (accept_of_ne apart)
  change tableEnd table passed (closing :: tail) = _
  rw [tableEnd_keyed keyed, ← schemaOf_eq]
  exact bind_of_ok (expect_cons here) rfl

/-- One more column, and the parenthesis behind it, complete a table with its key. -/
theorem tableRest_offered (options : List Token) (last : Column)
    (read : ∀ tail, column (passed.any Column.primaryKey)
        (⟨.name "x", "", .start⟩ :: (options ++ ⟨.symbol .rightParen, "", .start⟩ :: tail)) =
      .ok (last, ⟨.symbol .rightParen, "", .start⟩ :: tail))
    (one : (passed ++ [last]).countP Column.primaryKey = 1) :
    Offers (tableRest table · passed) (fun k => k) StartsName ends := by
  have keyed : (passed ++ [last]).any Column.primaryKey :=
    List.any_eq_true.mpr (List.countP_pos_iff.mp (one ▸ Nat.one_pos))
  refine ⟨⟨.name "x", "", .start⟩ :: (options ++ [⟨.symbol .rightParen, "", .start⟩]),
    Schema.create table (passed ++ [last]), create_innocent one, ?_, fun _ _ => trivial⟩
  intro k tail enough _
  obtain ⟨fewer, rfl⟩ : ∃ fewer, k = fewer + 1 :=
    Nat.exists_eq_add_one.mpr (Nat.zero_lt_of_lt enough)
  dsimp only
  rw [tableRest_succ, List.cons_append, List.append_assoc]
  exact bind_of_ok (read tail) (behindColumn_closed rfl keyed fewer tail)

/-- Without a marked column, no column is counted as the key. -/
theorem countP_keyless (keyless : ¬passed.any Column.primaryKey) :
    passed.countP Column.primaryKey = 0 :=
  List.countP_eq_zero.mpr fun _ member marked => keyless (List.any_eq_true.mpr ⟨_, member, marked⟩)

/-- The rest of a table can be completed by a column, which is the key if there is none. -/
theorem tableRest_offers (table : String) (bounded : passed.countP Column.primaryKey ≤ 1) :
    Offers (tableRest table · passed) (fun k => k) StartsName ends := by
  by_cases keyed : passed.any Column.primaryKey
  · have some := List.countP_pos_iff.mpr (List.any_eq_true.mp keyed)
    apply tableRest_offered [⟨.keyword .integer, "", .start⟩] ⟨"x", .integer, false, none⟩
    · exact fun _ => rfl
    · rw [List.countP_append]
      exact Nat.le_antisymm bounded some
  · apply tableRest_offered [⟨.keyword .integer, "", .start⟩, ⟨.keyword .primary, "", .start⟩,
      ⟨.keyword .key, "", .start⟩] ⟨"x", .integer, true, none⟩
    · rw [Bool.eq_false_iff.mpr keyed]
      exact fun _ => rfl
    · rw [List.countP_append, countP_keyless keyed]
      rfl

/-- Only the first column that is marked as the primary key is read. -/
theorem countP_column {first : Column}
    (unmarked : passed.any Column.primaryKey → first.primaryKey = false)
    (bounded : passed.countP Column.primaryKey ≤ 1) :
    (passed ++ [first]).countP Column.primaryKey ≤ 1 := by
  rw [List.countP_append]
  by_cases keyed : passed.any Column.primaryKey
  · rw [List.countP_singleton, unmarked keyed]
    exact bounded
  · rw [countP_keyless keyed, Nat.zero_add]
    exact List.countP_le_length

/-- What follows a column is ready if the rest of the table is. -/
theorem behindColumn_ready (rest : Ready (tableRest table steps passed) (tableRest table · passed)
      (fun k => k) StartsName ends) (bounded : passed.countP Column.primaryKey ≤ 1) :
    Ready (behindColumn table steps passed) (fun k => behindColumn table (k - 1) passed)
      (fun k => k) (fun first => first = .symbol .comma ∨ first = .symbol .rightParen) ends := by
  have more := rest.reindex (· - 1)
  by_cases keyed : passed.any Column.primaryKey
  · have some := List.countP_pos_iff.mpr (List.any_eq_true.mp keyed)
    apply Ready.accepting
    · exact more.prompt
    · exact tableEnd_ready (Nat.le_antisymm bounded some) _
    · exact fun _ => Nat.le_add_of_sub_le (Nat.le_refl _)
    · rfl
    · exact nofun
    · exact nofun
  · have again : ∀ {steps} {token : Token} {tokens}, token.terminal = .symbol .comma →
        behindColumn table steps passed (token :: tokens) = tableRest table steps passed tokens :=
      fun here => bind_of_ok (accept_cons here) rfl
    have offers : Offers (fun k => behindColumn table (k - 1) passed) (fun k => k)
        (fun first => first = .symbol .comma ∨ first = .symbol .rightParen) ends :=
      more.offers.shift ⟨.symbol .comma, "", .start⟩ (fun _ _ _ _ => again rfl)
        (fun _ => Nat.le_add_of_sub_le (Nat.le_refl _)) (.inl rfl)
    refine ⟨fun tokens => ?_, offers⟩
    by_cases here : front tokens = .symbol .comma
    · cases tokens with
      | nil => cases here
      | cons token tokens =>
          apply (more.prompt tokens).shift (again here) (fun _ _ _ _ => again here)
          · exact fun _ => Nat.le_add_of_sub_le (Nat.le_refl _)
          · exact congrArg introducesName here
          · exact .inl (.inl here)
    · obtain ⟨wanted, refused⟩ := tableEnd_refused (Bool.eq_false_iff.mpr keyed) tokens
      exact .refused (bind_of_ok (accept_of_ne here) refused) offers

/-- The rest of a table is ready, by induction on the steps. -/
theorem tableRest_ready (table : String) (steps : Nat)
    (bounded : passed.countP Column.primaryKey ≤ 1) :
    Ready (tableRest table steps passed) (tableRest table · passed) (fun k => k) StartsName
      ends := by
  induction steps generalizing passed with
  | zero => exact ⟨fun tokens => .excused (tableRest_zero tokens), tableRest_offers table bounded⟩
  | succ steps ih =>
      have continues {first tokens rest}
          (read : column (passed.any Column.primaryKey) tokens = .ok (first, rest)) :
          Ready (behindColumn table steps (passed ++ [first]))
            (fun k => behindColumn table (k - 1) (passed ++ [first])) (fun k => k)
            (fun first => first = .symbol .comma ∨ first = .symbol .rightParen) ends := by
        have once := countP_column (fun keyed => column_unmarked _ _ _ (keyed ▸ read)) bounded
        exact behindColumn_ready (ih once) once
      have both (tokens : List Token) : PromptAt
          (column (passed.any Column.primaryKey) >>= fun first =>
            behindColumn table steps (passed ++ [first]))
          (fun k => column (passed.any Column.primaryKey) >>= fun first =>
            behindColumn table (k - 1) (passed ++ [first]))
          (fun k => k) StartsName ends tokens := by
        apply ((column_steady _).prompt tokens).bind_consuming
        · exact fun first rest read => (continues read).prompt rest
        · rintro first ⟨used, read⟩
          exact (continues (read _ [] (Nat.lt_succ_self _) ⟨nofun, nofun, nofun⟩)).offers
        · rintro terminal (rfl | rfl) <;> exact ⟨nofun, nofun, nofun⟩
        · exact fun _ _ => Nat.zero_le _
        · exact fun _ => ⟨Nat.le_refl _, Nat.le_refl _⟩
      refine ⟨fun tokens => ?_, tableRest_offers table bounded⟩
      apply (both tokens).congr (congrFun tableRest_succ tokens) _ fun _ opening => opening
      intro k tokens' enough _
      obtain ⟨fewer, rfl⟩ := Nat.exists_eq_add_one.mpr enough
      exact congrFun tableRest_succ tokens'

/-! ### Whole declarations -/

/-- The columns of a table and the end of its declaration. -/
def tableBody (table : String) : Parser Schema := do
  let declared ← fun tokens => columns (tokens.length + 1) false tokens
  tableEnd table declared

/-- The columns of a table and their end are steady. -/
theorem tableBody_steady (table : String) (ends : Terminal → Prop) :
    Steady (tableBody table) StartsName ends := by
  have keyless : [].countP Column.primaryKey ≤ 1 := Nat.zero_le 1
  have rest (steps : Nat) : Ready (tableRest table steps [])
      (fun k : Nat × Nat => tableRest table k.2 []) (fun k => min k.1 k.2) StartsName ends :=
    ((tableRest_ready table steps keyless).reindex Prod.snd).fewer fun _ => Nat.min_le_right _ _
  constructor
  · intro tokens
    exact .sized (fun _ steps => tableRest table steps [])
      ((rest (tokens.length + 1)).prompt tokens) rfl
  · exact (rest 0).offers.sized fun _ steps => tableRest table steps []

theorem createTable_steady (ends : Terminal → Prop) :
    Steady createTable (· = .keyword .table) ends :=
  opened_steady rfl fun table => tableBody_steady table ends

/-- What may be declared, by the word in front of it. -/
def declaration? : Terminal → Option (Parser Statement)
  | .keyword .table => some do
    let schema ← createTable
    return .createTable schema
  | .keyword .index => some do
    let declared ← createIndex
    return .createIndex declared
  | _ => none

/-- A declaration behind its first word. -/
def declaration : Parser Statement :=
  fun tokens =>
    ((declaration? (front tokens)).getD (Parser.refuse (.terminal (.keyword .table)))) tokens

/-- A declaration starts with its word. -/
theorem create_eq : create = expectKeyword .create >>= fun _ => declaration := by
  unfold create
  refine bind_congr fun _ => ?_
  funext tokens
  cases tokens with
  | nil => rfl
  | cons token tokens =>
      obtain ⟨terminal, lexeme, place⟩ := token
      cases terminal with
      | keyword word => cases word <;> rfl
      | _ => rfl

/-- Declarations behind their word are steady. -/
theorem declaration_steady (ends : Terminal → Prop) :
    Steady declaration (fun first => (declaration? first).isSome) ends := by
  apply Steady.chosen (fun _ => rfl) _ (rfl : declaration? (.keyword .index) = some _)
  intro terminal form found
  unfold declaration? at found
  split at found
  · cases found
    exact (createTable_steady ends).last Statement.createTable
  · cases found
    exact (createIndex_steady ends).last Statement.createIndex
  · cases found

theorem create_steady (ends : Terminal → Prop) : Steady create (· = .keyword .create) ends := by
  rw [create_eq]
  exact .expecting (declaration_steady ends) rfl

end Grammar

end Relational
