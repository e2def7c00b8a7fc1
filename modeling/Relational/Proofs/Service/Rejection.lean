import Relational.Proofs.Catalog.Volatile
import Relational.Service

/-!
# Rejected requests leave no trace

A service over a catalog that keeps no snapshots answers the same if its databases
are replaced by equivalent ones.  A request that is rejected reaches no database,
or its statement fails and leaves equivalent databases.  So rejected requests can
be left out of a sequence, and all others are answered as before.
-/

namespace Relational

namespace Service

open Catalog (Parallel)

/-- Answers that are the same, with catalogs that cannot be told apart. -/
structure AnsweredAlike {α : Type} (first second : Catalog × α) : Prop where
  answer : second.2 = first.2
  parallel : Parallel first.1 second.1

variable (settings : ServiceSettings) {first second : Catalog} {now : DateTime} {request : Request}
  {body : Option String}

/-! ### Services that cannot be told apart -/

/-- A query is answered the same, over catalogs that cannot be told apart. -/
theorem runQuery_alike (parallel : Parallel first second) (now : DateTime) (body : Option String) :
    AnsweredAlike (runQuery now ⟨settings, first⟩ body) (runQuery now ⟨settings, second⟩ body) := by
  unfold runQuery
  dsimp only
  split
  · rename_i database sql _
    obtain ⟨outcome, parallel'⟩ := parallel.execute now database sql
    exact ⟨outcome, parallel'⟩
  · exact ⟨rfl, parallel⟩

/-- A request with a query is answered the same, over catalogs that cannot be told apart. -/
theorem answerQuery_alike (parallel : Parallel first second) (now : DateTime) (request : Request)
    (body : Option String) :
    AnsweredAlike (answerQuery now ⟨settings, first⟩ request body)
      (answerQuery now ⟨settings, second⟩ request body) := by
  have ran := runQuery_alike settings parallel now body
  unfold answerQuery
  split
  · generalize runQuery now ⟨settings, first⟩ body = result,
      runQuery now ⟨settings, second⟩ body = result' at ran
    obtain ⟨catalog, outcome⟩ := result
    obtain ⟨catalog', outcome'⟩ := result'
    obtain ⟨same, parallel'⟩ := ran
    cases same
    cases outcome <;> exact ⟨rfl, parallel'⟩
  · exact ⟨rfl, parallel⟩

/-- A request is answered the same, over catalogs that cannot be told apart. -/
theorem answer_alike (parallel : Parallel first second) (now : DateTime) (request : Request) :
    AnsweredAlike (answer now ⟨settings, first⟩ request)
      (answer now ⟨settings, second⟩ request) := by
  unfold answer
  split
  · unfold receiveQuery
    split
    · exact answerQuery_alike settings parallel now request _
    · exact ⟨rfl, parallel⟩
  · exact ⟨rfl, parallel⟩
  · exact ⟨rfl, parallel⟩

/-! ### Requests that are rejected -/

variable {settings}

/-- A query that is rejected leaves a catalog that cannot be told apart from the one
before. -/
theorem answerQuery_rejected (parallel : Parallel first second)
    (rejected : 400 ≤ (answerQuery now ⟨settings, first⟩ request body).2.1) :
    Parallel (answerQuery now ⟨settings, first⟩ request body).1 second := by
  have ran : ∀ error, (runQuery now ⟨settings, first⟩ body).2 = .error error →
      Parallel (runQuery now ⟨settings, first⟩ body).1 second := by
    intro error fails
    unfold runQuery at fails ⊢
    split
    · rename_i resolved
      rw [resolved] at fails
      exact parallel.of_execute_error fails
    · exact parallel
  unfold answerQuery at rejected ⊢
  split
  · rename_i authorized
    rw [if_pos authorized] at rejected
    generalize runQuery now ⟨settings, first⟩ body = result at ran rejected
    obtain ⟨catalog, outcome⟩ := result
    cases outcome with
    | ok outcome =>
        have granted : 400 ≤ 200 := rejected
        omega
    | error error => exact ran error rfl
  · exact parallel

/-- A request that is rejected leaves a catalog that cannot be told apart from the one
before. -/
theorem answer_rejected (parallel : Parallel first second)
    (rejected : 400 ≤ (answer now ⟨settings, first⟩ request).2.1) :
    Parallel (answer now ⟨settings, first⟩ request).1 second := by
  unfold answer at rejected ⊢
  split
  · rename_i posts asks
    simp only [posts, asks] at rejected
    unfold receiveQuery at rejected ⊢
    split
    · rename_i taken
      rw [taken] at rejected
      exact answerQuery_rejected parallel rejected
    · exact parallel
  · exact parallel
  · exact parallel

/-! ### Requests without the key -/

/-- A query without the key of a service reaches no database. -/
theorem answerQuery_unauthorized (catalog : Catalog)
    (refused : settings.isAuthorized request = false) (now : DateTime) (body : Option String) :
    answerQuery now ⟨settings, catalog⟩ request body =
      (catalog, 401, failureBody "Unauthorized: invalid or missing API key") := by
  rw [answerQuery, refused]
  rfl

/-- Who does not have the key of a service learns nothing about it: what the service
announces, what it answers and what it keeps are the same for all keys that were not
given. -/
theorem key_withheld {catalog : Catalog} (now : DateTime) {key key' : String}
    (refused : { settings with key := some key }.isAuthorized request = false)
    (refused' : { settings with key := some key' }.isAuthorized request = false) :
    announcement ⟨{ settings with key := some key }, catalog⟩ =
        announcement ⟨{ settings with key := some key' }, catalog⟩ ∧
      (respond now ⟨{ settings with key := some key }, catalog⟩ request).2 =
        (respond now ⟨{ settings with key := some key' }, catalog⟩ request).2 ∧
      (respond now ⟨{ settings with key := some key }, catalog⟩ request).1.catalog =
        (respond now ⟨{ settings with key := some key' }, catalog⟩ request).1.catalog := by
  have queries : ∀ body,
      answerQuery now ⟨{ settings with key := some key }, catalog⟩ request body =
        answerQuery now ⟨{ settings with key := some key' }, catalog⟩ request body := fun body =>
    (answerQuery_unauthorized catalog refused now body).trans
      (answerQuery_unauthorized catalog refused' now body).symm
  have answers : answer now ⟨{ settings with key := some key }, catalog⟩ request =
      answer now ⟨{ settings with key := some key' }, catalog⟩ request := by
    simp only [answer, receiveQuery, queries]
  refine ⟨rfl, ?_⟩
  unfold respond
  cases request.announcedMethod? with
  | some method => exact ⟨rfl, rfl⟩
  | none =>
      dsimp only
      rw [answers]
      exact ⟨rfl, rfl⟩

/-! ### Sequences of requests -/

/-- The responses to requests that come one after another, some of which are
marked. -/
def respondAll (now : DateTime) (service : Service) :
    List (Bool × Request) → List (Bool × Response)
  | [] => []
  | (marked, request) :: rest =>
    let answered := service.respond now request
    (marked, answered.2) :: answered.1.respondAll now rest

/-- The part of a sequence that is not marked. -/
def unmarked {α : Type} (sequence : List (Bool × α)) : List (Bool × α) :=
  sequence.filter fun entry => !entry.1

/-- Preflight requests are answered from the settings, and all others by route. -/
theorem respond_cases (now : DateTime) (settings : ServiceSettings) (request : Request) :
    (∃ response, ∀ catalog, respond now ⟨settings, catalog⟩ request =
        (⟨settings, catalog⟩, response)) ∨
      ∀ catalog, respond now ⟨settings, catalog⟩ request =
        (⟨settings, (answer now ⟨settings, catalog⟩ request).1⟩,
          ⟨(answer now ⟨settings, catalog⟩ request).2.1,
            (answer now ⟨settings, catalog⟩ request).2.2, settings.allowedOrigin request⟩) := by
  unfold respond
  cases request.announcedMethod? with
  | some method => exact Or.inl ⟨settings.answerPreflight request method, fun catalog => rfl⟩
  | none => exact Or.inr fun catalog => rfl

/-- Leaving out requests that were rejected. -/
theorem respondAll_unmarked (parallel : Parallel first second) (now : DateTime)
    {requests : List (Bool × Request)}
    (rejected : ∀ answer ∈ respondAll now ⟨settings, first⟩ requests,
      answer.1 = true → 400 ≤ answer.2.status) :
    respondAll now ⟨settings, second⟩ (unmarked requests) =
      unmarked (respondAll now ⟨settings, first⟩ requests) := by
  induction requests generalizing first second with
  | nil => rfl
  | cons entry rest ih =>
      obtain ⟨marked, request⟩ := entry
      rw [respondAll] at rejected ⊢
      obtain ⟨head, tail⟩ := List.forall_mem_cons.mp rejected
      cases marked with
      | true =>
          change respondAll now ⟨settings, second⟩ (unmarked rest) =
            unmarked (respondAll now _ rest)
          rcases respond_cases now settings request with ⟨response, same⟩ | answers
          · rw [same] at tail ⊢
            exact ih parallel tail
          · rw [answers] at head tail ⊢
            exact ih (answer_rejected parallel (head rfl)) tail
      | false =>
          change (false, (respond now ⟨settings, second⟩ request).2) ::
              respondAll now _ (unmarked rest) =
            (false, (respond now ⟨settings, first⟩ request).2) ::
              unmarked (respondAll now _ rest)
          rcases respond_cases now settings request with ⟨response, same⟩ | answers
          · rw [same] at tail ⊢
            rw [same, ih parallel tail]
          · have alike := answer_alike settings parallel now request
            rw [answers] at tail ⊢
            rw [answers, alike.answer, ih alike.parallel tail]

/-- Rejected requests leave no trace: whichever of the requests that are answered
with a status of 400 or more are left out of a sequence, the others are answered
the same. -/
theorem rejected_traceless {configuration : Configuration}
    (volatile : configuration.persistent = false) (settings : ServiceSettings)
    (directory : Directory) (now : DateTime) {requests : List (Bool × Request)}
    (rejected : ∀ answer ∈
      respondAll now ⟨settings, Catalog.start configuration directory⟩ requests,
        answer.1 = true → 400 ≤ answer.2.status) :
    respondAll now ⟨settings, Catalog.start configuration directory⟩ (unmarked requests) =
      unmarked (respondAll now ⟨settings, Catalog.start configuration directory⟩ requests) :=
  respondAll_unmarked (Catalog.start_parallel volatile directory) now rejected

/-- A query that carries a key. -/
def keyedQuery (key body : String) : Request :=
  ⟨"POST", "/query", [("X-API-Key", key)], some body⟩

/-- Requests of which those that are marked are rejected: one for a table that is
missing from a new database, one with a wrong key, one that is no query, one for a
primary key that is taken, and one for no route. -/
def assault : List (Bool × Request) :=
  [(false, keyedQuery "k" "[\"CREATE TABLE t (id INT PRIMARY KEY)\"]"),
    (true, keyedQuery "k" "[\"DELETE FROM t\",\"mill\"]"),
    (true, keyedQuery "" "[\"DROP TABLE t\"]"), (true, keyedQuery "k" "[]"),
    (false, keyedQuery "k" "[\"INSERT INTO t (id) VALUES (1)\"]"),
    (true, keyedQuery "k" "[\"INSERT INTO t (id) VALUES ('1')\"]"),
    (true, ⟨"GET", "/t", [], none⟩), (false, keyedQuery "k" "[\"SELECT * FROM t\"]"),
    (false, ⟨"GET", "/health", [], none⟩)]

/-- A service with a key and a default database. -/
def guarded : ServiceSettings :=
  { ServiceSettings.default with key := some "k", defaultDatabase := some "plant" }

/-- The marked requests are rejected for five different reasons, and without them the others
are answered as they are with them. -/
theorem assault_traceless :
    Configuration.inMemory.persistent = false ∧
      (respondAll Database.leapDay ⟨guarded, .start .inMemory .empty⟩ assault).map
          (fun answer => (answer.1, answer.2.status)) =
        [(false, 200), (true, 404), (true, 401), (true, 400), (false, 200), (true, 409),
          (true, 404), (false, 200), (false, 200)] ∧
      respondAll Database.leapDay ⟨guarded, .start .inMemory .empty⟩ (unmarked assault) =
        unmarked (respondAll Database.leapDay ⟨guarded, .start .inMemory .empty⟩ assault) := by
  have statuses : (respondAll Database.leapDay ⟨guarded, .start .inMemory .empty⟩ assault).map
      (fun answer => (answer.1, answer.2.status)) =
        [(false, 200), (true, 404), (true, 401), (true, 400), (false, 200), (true, 409),
          (true, 404), (false, 200), (false, 200)] := by
    decide +kernel
  have rejected : ∀ pair ∈ (respondAll Database.leapDay ⟨guarded, .start .inMemory .empty⟩
      assault).map (fun answer => (answer.1, answer.2.status)), pair.1 = true → 400 ≤ pair.2 := by
    rw [statuses]
    decide
  exact ⟨rfl, statuses, rejected_traceless rfl guarded .empty _ fun answer member =>
    rejected _ (List.mem_map_of_mem member)⟩

end Service

end Relational
