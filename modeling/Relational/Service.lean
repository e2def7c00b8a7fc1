import Relational.Catalog
import Relational.Service.Body
import Relational.Service.Preflight

/-!
# Query service

The service answers requests that carry one statement each, and tells on request
that it is alive.  Answers are JSON documents.  A request that fails is answered
with the status of its error and the error's message.  Preflight requests are
answered before all others and reach no catalog.
-/

namespace Relational

/-- A statement to run and the database it is meant for. -/
structure QueryRequest where
  sql : String
  database : Option String
deriving DecidableEq

namespace QueryRequest

/-- The query that a record describes. -/
def ofJson? (json : Json) : Option QueryRequest := do
  match ← json.fields? ["sql", "db"] with
  | [some sql, database] =>
    return ⟨← sql.text?, ← Json.orDefault none (Json.orNull Json.text?) database⟩
  | _ => none

/-- The query in the body of a request, which has to be a text. -/
def ofBody (body : Option String) : Except Error QueryRequest :=
  match (body.bind Json.ofText?).bind ofJson? with
  | some query => .ok query
  | none => .error (.syntaxFault .invalidRequestBody)

end QueryRequest

namespace Outcome

/-- A row as an object; of several columns with one name the last one counts. -/
def rowObject (columns : List String) (row : Row) : Json :=
  Json.ofMembers ((NameMap.ofList (columns.zip row)).map Value.toJson).entries

/-- The document that reports an outcome. -/
def toJson : Outcome → Json
  | .rows columns shown =>
    Json.ofMembers
      [("success", .boolean true), ("data", .array (shown.map (rowObject columns)))]
  | .changed count =>
    Json.ofMembers
      [("success", .boolean true), ("rows_affected", .number (Numeral.ofInt count))]
  | .defined _ =>
    Json.ofMembers [("success", .boolean true), ("rows_affected", .number (Numeral.ofInt 0))]

end Outcome

/-- A catalog behind a query service. -/
structure Service where
  settings : ServiceSettings
  catalog : Catalog

namespace Service

/-- What is announced when the service starts.  Of its key it says only whether there is
one. -/
def announcement (service : Service) : String :=
  let configuration := service.catalog.configuration
  "PesaDB listening on http://" ++ service.settings.address ++
    " (data dir: " ++ configuration.dataDirectory ++
    ", persist: " ++ (if configuration.persistent then "true" else "false") ++
    ", snapshots: " ++ configuration.durability.description ++
    ", API key: " ++ (if service.settings.key.isSome then "required" else "disabled") ++ ")"

/-- The body that reports a failure. -/
def failureBody (message : String) : String :=
  (Json.ofMembers [("success", .boolean false), ("error", Json.ofString message)]).compact

/-- The statement of a query and the database to run it on. -/
def resolve (settings : ServiceSettings) (body : Option String) :
    Except Error (String × String) := do
  let query ← QueryRequest.ofBody body
  let sql := Unicode.trim query.sql
  if sql = "" then .error (.syntaxFault .emptyQuery)
  else
    match query.database.or settings.defaultDatabase with
    | some database => return (database, sql)
    | none => .error (.invalidQuery .databaseNotNamed)

/-- Run the query in a body. -/
def runQuery (now : DateTime) (service : Service) (body : Option String) :
    Catalog × Except Error Outcome :=
  match resolve service.settings body with
  | .ok (database, sql) => service.catalog.execute now database sql
  | .error error => (service.catalog, .error error)

/-- Answer a query with the body that was taken from it: status and body. -/
def answerQuery (now : DateTime) (service : Service) (request : Request)
    (body : Option String) : Catalog × Nat × String :=
  if service.settings.isAuthorized request then
    match service.runQuery now body with
    | (catalog, .ok outcome) => (catalog, 200, outcome.toJson.compact)
    | (catalog, .error error) => (catalog, error.status, failureBody error.message)
  else (service.catalog, 401, failureBody "Unauthorized: invalid or missing API key")

/-- Answer a query: status and body. -/
def receiveQuery (now : DateTime) (service : Service) (request : Request) :
    Catalog × Nat × String :=
  match request.takeBody with
  | .ok body => service.answerQuery now request body
  | .error fault => (service.catalog, fault.status, fault.message)

/-- Answer a request by its method and route: status and body. -/
def answer (now : DateTime) (service : Service) (request : Request) : Catalog × Nat × String :=
  match request.method, request.route with
  | "POST", "/query" => service.receiveQuery now request
  | "GET", "/health" =>
    (service.catalog, 200, (Json.ofMembers [("status", Json.ofString "ok")]).compact)
  | _, _ => (service.catalog, 404, "")

/-- Answer a request. -/
def respond (now : DateTime) (service : Service) (request : Request) : Service × Response :=
  match request.announcedMethod? with
  | some method => (service, service.settings.answerPreflight request method)
  | none =>
    let (catalog, status, body) := service.answer now request
    ({ service with catalog := catalog },
      ⟨status, body, service.settings.allowedOrigin request⟩)

end Service

end Relational
