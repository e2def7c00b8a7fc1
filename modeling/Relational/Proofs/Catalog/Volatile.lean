import Relational.Proofs.Catalog.Durability
import Relational.Proofs.Database.Renaming

/-!
# Catalogs that keep no snapshots

Without snapshots a catalog is no more than its databases, each of which is empty
until a statement puts something there.  A statement does to a database what it
does when it is run on the database alone.  Catalogs with equivalent databases
cannot be told apart, and a statement that fails leads to such a catalog.
-/

namespace Relational

namespace Catalog

/-! ### Statements without snapshots -/

/-- What a catalog without snapshots has of a database. -/
def held (catalog : Catalog) (name : String) : Database :=
  (catalog.known name).content.getD (Database.empty name)

variable {catalog : Catalog} {name sql : String} {now : DateTime} {statement : Statement}

/-- New knowledge of a database replaces what is held of it, and of no other. -/
theorem held_withKnown (catalog : Catalog) (name : String) (known : KnownDatabase)
    (other : String) :
    (catalog.withKnown name known).held other =
      if other = name then known.content.getD (Database.empty name) else catalog.held other := by
  unfold held
  rw [known_withKnown]
  by_cases here : other = name
  · rw [if_pos here, if_pos here, here]
  · rw [if_neg here, if_neg here]

/-- Loading a database leaves the content of all databases as it is. -/
theorem load_volatile (volatile : catalog.configuration.persistent = false) (name : String) :
    ∃ loaded : Catalog, catalog.load name = (loaded, .ok (catalog.held name)) ∧
      loaded.configuration = catalog.configuration ∧
      ∀ other, loaded.held other = catalog.held other := by
  have loads := load_loads catalog name
  have stored : catalog.stored name = .ok (Database.empty name) := by
    rw [Catalog.stored, if_neg (ne_true_of_eq_false volatile)]
  have held {database : Database} (known : KnownDatabase) (content : known.content = some database)
      (same : catalog.held name = database) (other : String) :
      (catalog.withKnown name known).held other = catalog.held other := by
    rw [held_withKnown, content]
    split
    · rename_i here
      rw [here, same]
      rfl
    · rfl
  generalize catalog.load name = loading at loads
  cases loads with
  | @present database content =>
      obtain rfl : catalog.held name = database := by
        rw [Catalog.held, content]
        rfl
      exact ⟨_, rfl, rfl, held _ content rfl⟩
  | read content stored' =>
      cases stored.symm.trans stored'
      have same : catalog.held name = Database.empty name := by
        rw [Catalog.held, content]
        rfl
      rw [same]
      exact ⟨_, rfl, rfl, held _ rfl same⟩
  | refused _ stored' => cases stored.symm.trans stored'

/-- A statement does to a database what it does to it alone. -/
theorem run_volatile (volatile : catalog.configuration.persistent = false) (now : DateTime)
    (name : String) (statement : Statement) :
    (catalog.run now name statement).2 = ((catalog.held name).execute now statement).2 ∧
      (catalog.run now name statement).1.configuration = catalog.configuration ∧
      ∀ other, (catalog.run now name statement).1.held other =
        if other = name then ((catalog.held name).execute now statement).1
        else catalog.held other := by
  obtain ⟨loaded, loads, configuration, held⟩ := load_volatile volatile name
  have volatile' : ¬ loaded.configuration.persistent = true := by
    rw [configuration, volatile]
    exact Bool.false_ne_true
  unfold run
  rw [loads]
  dsimp only
  split
  · unfold change save
    dsimp only
    split <;> rename_i outcome result
    · rw [if_neg volatile']
      refine ⟨rfl, configuration, fun other => ?_⟩
      rw [held_withKnown, held]
      rfl
    · refine ⟨rfl, configuration, fun other => ?_⟩
      rw [held_withKnown, held]
      rfl
  · rename_i reads
    rw [Database.execute_eq_query (Bool.not_eq_true _ ▸ reads)]
    refine ⟨rfl, configuration, fun other => ?_⟩
    rw [held]
    split
    · rename_i here
      rw [here]
    · rfl

/-! ### Catalogs with equivalent databases -/

/-- Catalogs without snapshots with equivalent databases, of which those of the
first one are reachable. -/
structure Parallel (first second : Catalog) : Prop where
  volatile : first.configuration.persistent = false
  volatile' : second.configuration.persistent = false
  reachable : ∀ name, (first.held name).Reachable
  equivalent : ∀ name, (first.held name).Equivalent (second.held name)

variable {first second : Catalog}

/-- A new catalog is parallel to itself. -/
theorem start_parallel {configuration : Configuration}
    (volatile : configuration.persistent = false) (directory : Directory) :
    Parallel (start configuration directory) (start configuration directory) where
  volatile := volatile
  volatile' := volatile
  reachable := Database.Reachable.empty
  equivalent := fun name => (Database.empty_sound name).equivalent_refl

/-- A statement has the same outcome. -/
theorem Parallel.execute (parallel : Parallel first second) (now : DateTime) (name sql : String) :
    (second.execute now name sql).2 = (first.execute now name sql).2 ∧
      Parallel (first.execute now name sql).1 (second.execute now name sql).1 := by
  unfold Catalog.execute
  split
  · exact ⟨rfl, parallel⟩
  · split
    · exact ⟨rfl, parallel⟩
    · rename_i statement parsed
      have valid := Statement.parse_valid parsed
      have ran := (parallel.equivalent name).execute now valid
      obtain ⟨outcome, configuration, held⟩ := run_volatile parallel.volatile now name statement
      obtain ⟨outcome', configuration', held'⟩ := run_volatile parallel.volatile' now name statement
      refine ⟨outcome'.trans (ran.outcome.trans outcome.symm), ?_, ?_, fun other => ?_,
        fun other => ?_⟩
      · rw [configuration, parallel.volatile]
      · rw [configuration', parallel.volatile']
      · rw [held]
        split
        · exact (parallel.reachable name).executed now valid
        · exact parallel.reachable other
      · rw [held, held']
        split
        · exact ran.equivalent
        · exact parallel.equivalent other

/-- A statement that fails leaves a catalog that cannot be told from the one
before. -/
theorem Parallel.of_execute_error (parallel : Parallel first second) {error : Error}
    (fails : (first.execute now name sql).2 = .error error) :
    Parallel (first.execute now name sql).1 second := by
  rcases execute_cases now first name sql with ⟨_, refused⟩ | ⟨statement, parsed, ran⟩
  · rw [refused]
    exact parallel
  · have valid := Statement.parse_valid parsed
    obtain ⟨outcome, configuration, held⟩ := run_volatile parallel.volatile now name statement
    rw [ran] at fails ⊢
    have reachable := parallel.reachable name
    have same := reachable.execute_error now statement error (outcome.symm.trans fails)
    have equivalent := same.equivalent (reachable.executed now valid).sound reachable.sound
    refine ⟨?_, parallel.volatile', fun other => ?_, fun other => ?_⟩
    · rw [configuration, parallel.volatile]
    · rw [held]
      split
      · exact reachable.executed now valid
      · exact parallel.reachable other
    · rw [held]
      split
      · rename_i here
        rw [here]
        exact equivalent.trans (parallel.equivalent name)
      · exact parallel.equivalent other

end Catalog

end Relational
