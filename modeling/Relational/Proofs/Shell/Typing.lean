import Relational.Proofs.Grammar.Placement
import Relational.Proofs.Token.Line
import Relational.Shell

/-!
# Typing a statement

A shell collects the lines of a statement, trimmed and with a blank behind each, and
not as they were typed.  Unless a line ends inside of a quotation, or of a comment
that ends with its line, this makes no difference: the catalog becomes what executing
the typed text makes of it, and the same is printed, but for the positions in the
messages of the scanner, which are those in the collected text.
-/

namespace Relational

/-- The same outcome, or the same fault of a text at most so many characters later. -/
inductive Later {α : Type} (room : Nat) : Except Error α → Except Error α → Prop
  | same (outcome : Except Error α) : Later room outcome outcome
  | moved {fault : SyntaxFault} {distance : Nat} (near : distance ≤ room) :
      Later room (.error (.syntaxFault (fault.moved distance))) (.error (.syntaxFault fault))

variable {room : Nat} {typed collected : String}

/-- Texts with the same tokens are parsed alike, and texts with the same fault at two places
are refused for it at these. -/
theorem Statement.parse_displaced
    (displaced : Token.Displaced room (Token.ofText typed) (Token.ofText collected)) :
    Later room (parse typed) (parse collected) := by
  have read {text : String} {tokens : List Token} (cuts : Token.ofText text = .ok tokens) :
      parse text = (ofTokens tokens).mapError Grammar.Refusal.toError := by
    unfold parse
    rw [cuts]
    dsimp only
    cases ofTokens tokens <;> rfl
  have refused {text : String} {fault : SyntaxFault} (cuts : Token.ofText text = .error fault) :
      parse text = .error (.syntaxFault fault) := by
    unfold parse
    rw [cuts]
  generalize cuts : Token.ofText typed = tokens, cuts' : Token.ofText collected = tokens' at displaced
  cases displaced with
  | tokens same =>
      rw [read cuts, read cuts', ofTokens_unplaced same]
      exact .same _
  | fault near =>
      rw [refused cuts, refused cuts']
      exact .moved near

/-- Texts that are parsed alike are executed alike. -/
theorem Catalog.execute_later (read : Later room (Statement.parse typed) (Statement.parse collected))
    (now : DateTime) (catalog : Catalog) (name : String) :
    (catalog.execute now name collected).1 = (catalog.execute now name typed).1 ∧
      Later room (catalog.execute now name typed).2 (catalog.execute now name collected).2 := by
  unfold execute
  split
  · exact ⟨rfl, .same _⟩
  · generalize Statement.parse typed = asked, Statement.parse collected = asked' at read
    cases read with
    | same outcome => exact ⟨rfl, .same _⟩
    | moved near => exact ⟨rfl, .moved near⟩

namespace Shell

/-- Lines of which the last one completes a statement, and none is a command. -/
structure Complete (earlier : List String) (last : String) : Prop where
  solid : ∀ line ∈ earlier ++ [last], Unicode.trim line ≠ ""
  bare : ∀ line ∈ earlier ++ [last], (Unicode.trim line).toList.head? ≠ some '.'
  unfinished : ∀ line ∈ earlier, (Unicode.trim line).toList.getLast? ≠ some ';'
  finished : (Unicode.trim last).toList.getLast? = some ';'

/-- The text of some lines, as it is collected. -/
def collect (lines : List String) : String :=
  String.join (lines.map fun line => Unicode.trim line ++ " ")

/-- No line but the last one ends inside of a quotation, or of a comment that ends
with its line. -/
def breaksApart (earlier : List String) : Bool :=
  Token.Context.plain.breaksApart (earlier.map fun line => Unicode.trimmed line.toList)

/-- How much white space is trimmed away from some lines. -/
def trimmedAway (lines : List String) : Nat :=
  Token.margins (lines.map String.toList)

/-- What is printed in front of the lines of a statement. -/
def prompts (earlier : List String) : List Printed :=
  .output "pesadb> " :: earlier.map fun _ => .output "     -> "

variable {shell : Shell} {earlier : List String} {line last : String}

/-! ### Collecting lines -/

/-- A line that does not end with a semicolon is kept for the next one. -/
theorem read_unfinished (solid : Unicode.trim line ≠ "")
    (bare : (Unicode.trim line).toList.head? ≠ some '.')
    (unfinished : (Unicode.trim line).toList.getLast? ≠ some ';') (now : DateTime) :
    shell.read now line =
      ⟨{ shell with pending := shell.pending ++ (Unicode.trim line ++ " ") }, [], false⟩ := by
  unfold read
  dsimp only
  rw [if_neg bare, if_neg solid, if_neg unfinished, String.append_assoc]

/-- A line that ends with a semicolon completes the statement, which is submitted. -/
theorem read_finished (solid : Unicode.trim line ≠ "")
    (bare : (Unicode.trim line).toList.head? ≠ some '.')
    (finished : (Unicode.trim line).toList.getLast? = some ';') (now : DateTime) :
    shell.read now line =
      submit now { shell with pending := shell.pending ++ (Unicode.trim line ++ " ") } := by
  unfold read
  dsimp only
  rw [if_neg bare, if_neg solid, if_pos finished, String.append_assoc]

/-- Lines that complete a statement do so without the first one. -/
theorem Complete.tail (complete : Complete (line :: earlier) last) : Complete earlier last where
  solid := (List.forall_mem_cons.mp complete.solid).2
  bare := (List.forall_mem_cons.mp complete.bare).2
  unfinished := (List.forall_mem_cons.mp complete.unfinished).2
  finished := complete.finished

/-- The text that is submitted is executed as one statement, and its outcome is printed. -/
theorem submit_idle (idle : shell.pending = "") (now : DateTime) (text : String) :
    submit now { shell with pending := text } =
      ⟨shell.withCatalog (shell.catalog.execute now shell.database (Unicode.trim text)).1,
        [report (shell.catalog.execute now shell.database (Unicode.trim text)).2], false⟩ := by
  rw [submit, withCatalog, idle]

/-- The lines of a statement are collected, and then submitted together. -/
theorem converse_collects (complete : Complete earlier last) (now : DateTime)
    (more : List String) : shell.converse now (earlier ++ last :: more) =
      let turn := submit now
        { shell with pending := shell.pending ++ collect (earlier ++ [last]) }
      let (final, others) := turn.shell.converse now more
      (final, shell.prompt :: earlier.map (fun _ => .output "     -> ") ++ turn.printed ++ others)
    := by
  induction earlier generalizing shell with
  | nil =>
      have reads : shell.read now last = _ := read_finished (complete.solid last List.mem_cons_self)
        (complete.bare last List.mem_cons_self) complete.finished now
      rw [List.nil_append, converse, reads]
      simp [submit, collect, String.join_cons]
  | cons line earlier ih =>
      have reads : shell.read now line = _ :=
        read_unfinished (complete.solid line List.mem_cons_self)
          (complete.bare line List.mem_cons_self) (complete.unfinished line List.mem_cons_self) now
      have waits : prompt { shell with pending := shell.pending ++ (Unicode.trim line ++ " ") } =
          .output "     -> " :=
        congrArg Printed.output (if_neg (by simp [String.append_eq_empty_iff]))
      rw [List.cons_append, converse, reads, ih complete.tail, waits]
      simp [collect, String.join_cons, String.append_assoc]

/-! ### The text that is typed and the text that is run -/

/-- What is collected are the trimmed lines, each one in front of a space. -/
theorem toList_collect (lines : List String) : (collect lines).toList =
    (lines.map String.toList).flatMap (Unicode.trimmed · ++ [' ']) := by
  rw [collect, String.toList_join, List.flatMap_map, List.flatMap_map]
  simp [Unicode.trim]

/-- What is typed are the lines, each one but the last in front of its break. -/
theorem toList_typed (earlier : List String) (last : String) :
    ("\n".intercalate (earlier ++ [last])).toList =
      (earlier.map String.toList).flatMap (· ++ ['\n']) ++ last.toList := by
  induction earlier with
  | nil => simp
  | cons line earlier ih =>
      rw [List.cons_append, String.intercalate_cons_of_ne_nil (by simp), String.toList_append, ih]
      simp

/-- A line that is not blank starts with no space after it was trimmed. -/
theorem head_trim_of_solid (solid : Unicode.trim line ≠ "") (more : List Char) :
    ∀ c, (Unicode.trimmed line.toList ++ more).head? = some c → Unicode.isSpace c = false := by
  intro c first
  cases trims : Unicode.trimmed line.toList with
  | nil => exact absurd (congrArg String.ofList trims) solid
  | cons d rest =>
      rw [trims] at first
      rw [List.cons_append, List.head?_cons, ← List.head?_cons, ← trims] at first
      exact Unicode.isSpace_of_head_trimmed first

/-- Of what has been collected only the last blank is trimmed away. -/
theorem toList_trim_collect (complete : Complete earlier last) :
    (Unicode.trim (collect (earlier ++ [last]))).toList =
      (earlier.map String.toList).flatMap (Unicode.trimmed · ++ [' ']) ++
        Unicode.trimmed last.toList := by
  have blank : (collect (earlier ++ [last])).toList =
      (earlier.map String.toList).flatMap (Unicode.trimmed · ++ [' ']) ++
        Unicode.trimmed last.toList ++ [' '] := by
    simp [toList_collect]
  rw [Unicode.trim, String.toList_ofList, blank]
  apply Unicode.trimmed_append_blank
  · cases earlier with
    | nil =>
        have starts := head_trim_of_solid (complete.solid last List.mem_cons_self) []
        rwa [List.append_nil] at starts
    | cons line earlier =>
        rw [List.map_cons, List.flatMap_cons, List.append_assoc, List.append_assoc]
        exact head_trim_of_solid (complete.solid line List.mem_cons_self) _
  · intro c ends
    have semicolon := complete.finished
    rw [Unicode.trim, String.toList_ofList] at semicolon
    rw [List.getLast?_append, semicolon] at ends
    cases ends
    decide +kernel

/-- What is collected of lines is parsed as the lines that are typed, unless a line ends
inside of a quotation or of a comment that ends with it. -/
theorem parse_collect (complete : Complete earlier last) (apart : breaksApart earlier = true) :
    Later (trimmedAway (earlier ++ [last]))
      (Statement.parse ("\n".intercalate (earlier ++ [last])))
      (Statement.parse (Unicode.trim (collect (earlier ++ [last])))) := by
  have apart : Token.Context.plain.breaksApart
      ((earlier.map String.toList).map Unicode.trimmed) = true := by
    rw [List.map_map]
    exact apart
  obtain ⟨outcome, outcome', cut, cut', displaced⟩ :=
    Token.cutAlike_lines apart last.toList
  rw [← toList_typed] at cut
  rw [← toList_trim_collect complete] at cut'
  rw [← Token.ofText_eq_iff.mpr cut, ← Token.ofText_eq_iff.mpr cut'] at displaced
  rw [trimmedAway, List.map_append]
  exact Statement.parse_displaced displaced

/-- A statement that is typed to an idle shell is run as if its lines had been joined
by line ends and executed, if no line ends inside of a quotation or of a comment that
ends with its line. -/
theorem converse_statement (idle : shell.pending = "") (complete : Complete earlier last)
    (apart : breaksApart earlier = true) (now : DateTime) :
    ∃ outcome,
      Later (trimmedAway (earlier ++ [last]))
        (shell.catalog.execute now shell.database ("\n".intercalate (earlier ++ [last]))).2
        outcome ∧
      ∀ more, shell.converse now (earlier ++ last :: more) =
        let executed :=
          shell.catalog.execute now shell.database ("\n".intercalate (earlier ++ [last]))
        let (final, others) := (shell.withCatalog executed.1).converse now more
        (final, prompts earlier ++ report outcome :: others) := by
  obtain ⟨catalog, later⟩ := Catalog.execute_later (parse_collect complete apart) now
    shell.catalog shell.database
  refine ⟨_, later, fun more => ?_⟩
  have whole : shell.pending ++ collect (earlier ++ [last]) = collect (earlier ++ [last]) := by
    rw [idle, String.empty_append]
  have first : shell.prompt = .output "pesadb> " := congrArg Printed.output (if_pos idle)
  rw [converse_collects complete, whole, submit_idle idle, catalog, first]
  simp [prompts]

/-- A time for statements that do not ask for it. -/
def morning : DateTime :=
  DateTime.startOfDay ⟨2024, 3, 1⟩

/-- A shell on a table with two rows. -/
def tending : Shell :=
  let row (a : Int64) : Statement := .insert ⟨"t", ["a"], [.literal (.integer a)]⟩
  let made : List Statement :=
    [.createTable ⟨"t", [⟨"a", .integer, true, none⟩], []⟩, row 1, row 2]
  (start .inMemory .empty "plant").withCatalog
    (made.foldl (fun catalog statement => (catalog.run morning "plant" statement).1)
      (.start .inMemory .empty))

/-- Indented lines with a comment over two of them, in front of a line that ends
inside of a comment of its own. -/
def indented : List String :=
  ["  DELETE FROM t /* all,", "but 'one */ WHERE", "    a > /**/ "]

/-- An update is typed over indented lines, the last of which has a comment with a quote and
a semicolon. -/
theorem indented_run :
    tending.pending = "" ∧ Complete indented "  1 -- the 'first;" ∧ breaksApart indented = true ∧
      trimmedAway (indented ++ ["  1 -- the 'first;"]) = 9 ∧
      (tending.catalog.execute morning tending.database
        ("\n".intercalate (indented ++ ["  1 -- the 'first;"]))).2 = .ok (.changed 1) ∧
      ∀ more, tending.converse morning (indented ++ "  1 -- the 'first;" :: more) =
        let executed := tending.catalog.execute morning tending.database
          ("\n".intercalate (indented ++ ["  1 -- the 'first;"]))
        let (final, others) := (tending.withCatalog executed.1).converse morning more
        (final, prompts indented ++ .line "1 row(s) affected" :: others) := by
  have complete : Complete indented "  1 -- the 'first;" :=
    ⟨by decide +kernel, by decide +kernel, by decide +kernel, by decide +kernel⟩
  have idle : tending.pending = "" := by decide +kernel
  have apart : breaksApart indented = true := by decide +kernel
  have changed : (tending.catalog.execute morning tending.database
      ("\n".intercalate (indented ++ ["  1 -- the 'first;"]))).2 = .ok (.changed 1) := by
    decide +kernel
  obtain ⟨outcome, later, prints⟩ := converse_statement idle complete apart morning
  rw [changed] at later
  cases later
  exact ⟨idle, complete, apart, by decide +kernel, changed, prints⟩

/-- A comment that should end with its line takes the next line in when the lines are
joined by a blank. -/
theorem remark_swallows_condition :
    tending.pending = "" ∧ Complete ["DELETE FROM t -- only one"] "WHERE a = 1;" ∧
      (tending.converse morning ["DELETE FROM t -- only one", "WHERE a = 1;"]).2 =
        prompts ["DELETE FROM t -- only one"] ++
          [.line "2 row(s) affected", .output "pesadb> "] ∧
      (tending.catalog.execute morning tending.database
        ("\n".intercalate ["DELETE FROM t -- only one", "WHERE a = 1;"])).2 =
          .ok (.changed 1) :=
  ⟨by decide +kernel, ⟨by decide +kernel, by decide +kernel, by decide +kernel, by decide +kernel⟩,
    by decide +kernel, by decide +kernel⟩

end Shell

end Relational
