import Relational.Service.Request

/-!
# Settings of the query service

The settings say where the service listens, which key it asks for, and which
origins' scripts may read its answers.
-/

namespace Relational

/-- How the service is set up. -/
structure ServiceSettings where
  host : String
  listenPort : Nat
  /-- The key that every query has to carry, if there is one. -/
  key : Option String
  /-- The origins whose scripts may read answers; none or `*` means any. -/
  origins : List String
  /-- The database of queries that name none. -/
  defaultDatabase : Option String
deriving DecidableEq

namespace ServiceSettings

/-- A service for this machine only, without a key. -/
def default : ServiceSettings :=
  ⟨"127.0.0.1", 8080, none, [], none⟩

/-- Where the service listens. -/
def address (settings : ServiceSettings) : String :=
  settings.host ++ ":" ++ naturalText settings.listenPort

/-- The header that carries the key. -/
def keyHeader : String :=
  "X-API-Key"

/-- Whether a request carries the key that the service asks for. -/
def isAuthorized (settings : ServiceSettings) (request : Request) : Bool :=
  match settings.key with
  | none => true
  | some key => (request.textHeader? keyHeader).any fun given => given == key

/-- Whether scripts of every origin may read answers. -/
def admitsAnyOrigin (settings : ServiceSettings) : Bool :=
  settings.origins.isEmpty || settings.origins.contains "*"

/-- Whether scripts of an origin may read answers. -/
def admits (settings : ServiceSettings) (origin : String) : Bool :=
  settings.admitsAnyOrigin || settings.origins.contains origin

/-- The origin of a request, if its scripts may read the answer.  An origin that
is not visible ASCII is never named in an answer. -/
def allowedOrigin (settings : ServiceSettings) (request : Request) : Option String :=
  (request.textHeader? "Origin").filter settings.admits

end ServiceSettings

end Relational
