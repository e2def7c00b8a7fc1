import Relational.Service.Settings

/-!
# Preflight requests

Before a browser sends certain requests for a script it asks leave for them.
The service grants leave to the origins that may read its answers, for the
methods it serves.  It decides so without looking at the path, the key or the
body, and a refusal says what stood against it.
-/

namespace Relational

/-- Why leave is refused. -/
inductive PreflightFault where
  /-- Only some origins are admitted, and the request names none. -/
  | originMissing
  /-- The origin is not among those admitted. -/
  | originRefused
  /-- The announced method is not served. -/
  | methodRefused
deriving DecidableEq

namespace PreflightFault

/-- The text that tells a fault. -/
def message : PreflightFault → String
  | .originMissing => "Request header `Origin` is required but was not provided"
  | .originRefused => "Origin is not allowed to make this request"
  | .methodRefused => "Requested method is not allowed"

end PreflightFault

namespace ServiceSettings

/-- The methods that leave is granted for. -/
def grantedMethods : List String :=
  ["GET", "POST", "OPTIONS"]

/-- The origin of a preflight request has to be admitted. -/
def checkOrigin (settings : ServiceSettings) : Option String → Except PreflightFault Unit
  | some origin => if settings.admits origin then .ok () else .error .originRefused
  | none => if settings.admitsAnyOrigin then .ok () else .error .originMissing

/-- The announced method has to be one that leave is granted for. -/
def checkMethod (method : String) : Except PreflightFault Unit :=
  if grantedMethods.contains method then .ok () else .error .methodRefused

/-- Whether leave is granted to a request that announces a method. -/
def checkPreflight (settings : ServiceSettings) (request : Request) (method : String) :
    Except PreflightFault Unit := do
  settings.checkOrigin request.origin?
  checkMethod method

/-- Answer a request that announces a method. -/
def answerPreflight (settings : ServiceSettings) (request : Request) (method : String) :
    Response :=
  match settings.checkPreflight request method with
  | .ok () => ⟨200, "", settings.allowedOrigin request⟩
  | .error fault => ⟨400, fault.message, none⟩

end ServiceSettings

end Relational
