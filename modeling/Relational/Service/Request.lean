import Relational.Json.Reader
import Relational.Value.Coercion

/-!
# Requests

A request has a method, a target, headers and a body, and its answer a status
and a body.  A browser asks leave before it sends some requests from a script: such
a request for leave announces the method of the request to come.
-/

namespace Relational

/-- A request as the service sees it. -/
structure Request where
  method : String
  /-- What is asked for: a path, or a whole address with a path in it. -/
  target : String
  headers : List (String × String)
  body : Option String

/-- An answer. -/
structure Response where
  status : Nat
  body : String
  /-- The origin whose scripts may read the answer. -/
  allowedOrigin : Option String
deriving DecidableEq

namespace Request

/-! ### Headers -/

/-- The value of a header, whose name is written in any mix of cases.  Of several
headers with one name the first one counts. -/
def header? (request : Request) (name : String) : Option String :=
  let named := request.headers.find? fun header => lowerAscii header.1 = lowerAscii name
  named.map Prod.snd

/-- Header values count as texts only if they are visible ASCII. -/
def isVisible (text : String) : Bool :=
  text.toList.all fun c => (' ' ≤ c && c ≤ '~') || c == '\t'

/-- The value of a header that counts as a text. -/
def textHeader? (request : Request) (name : String) : Option String :=
  (request.header? name).filter isVisible

/-- The origin of the script that sends a request, if a script does. -/
def origin? (request : Request) : Option String :=
  request.header? "Origin"

/-! ### Announced methods -/

/-- The characters of the names of methods. -/
def continuesMethod (c : Char) : Bool :=
  c.isAlphanum || "!#$%&'*+-.^_`|~".toList.contains c

/-- Whether a text can name a method. -/
def isMethodName (text : String) : Bool :=
  !text.isEmpty && text.toList.all continuesMethod

/-- The method that a request announces if it asks leave for another one.  All
other requests announce nothing. -/
def announcedMethod? (request : Request) : Option String :=
  if request.method = "OPTIONS" then
    (request.textHeader? "Access-Control-Request-Method").filter isMethodName
  else none

/-! ### Routes -/

/-- The character of a percent escape with two hexadecimal digits. -/
def percentEscape? (high low : Char) : Option Char := do
  let high ← Json.hexValue? high
  let low ← Json.hexValue? low
  return Char.ofNat (high * 16 + low)

/-- A path with its percent escapes undone, but for those of characters that
have a meaning in paths. -/
def unescape : List Char → List Char
  | '%' :: high :: low :: rest =>
    match percentEscape? high low with
    | some c =>
      if c = '%' ∨ c = '/' ∨ c = '+' then '%' :: high :: low :: unescape rest
      else c :: unescape rest
    | none => '%' :: unescape (high :: low :: rest)
  | c :: rest => c :: unescape rest
  | [] => []

/-- The characters of schemes. -/
def continuesScheme (c : Char) : Bool :=
  c.isAlphanum || c == '+' || c == '-' || c == '.'

/-- A path goes on up to a query or a fragment. -/
def continuesPath (c : Char) : Bool :=
  c ≠ '?' && c ≠ '#'

/-- The name of a host goes on up to a path, a query or a fragment. -/
def continuesHost (c : Char) : Bool :=
  c ≠ '/' && continuesPath c

/-- The path in the target of a request.  A target starts with its path, or it
names a scheme and a host first, and then no path means the root.  Other targets
are without a path. -/
def targetPath (target : List Char) : List Char :=
  if target.head? = some '/' then target.takeWhile continuesPath
  else
    match target.dropWhile continuesScheme with
    | ':' :: '/' :: '/' :: rest =>
      match (rest.dropWhile continuesHost).takeWhile continuesPath with
      | [] => ['/']
      | path => path
    | _ => []

/-- The path of a request without escapes. -/
def route (request : Request) : String :=
  String.ofList (unescape (targetPath request.target.toList))

end Request

end Relational
