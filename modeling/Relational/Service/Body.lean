import Relational.Decimal.Text
import Relational.Service.Coding

/-!
# Bodies of requests

A body is taken if it is not too long, both as it is sent and with its coding
undone.  A request without a body may still declare the length of one, and then
the declaration is held to the same bound.
-/

namespace Relational

/-- Why a body is not taken. -/
inductive BodyFault where
  /-- The declared length is not a number. -/
  | lengthUnknown
  /-- The body, or what is declared of it, exceeds the longest body. -/
  | tooLong
  /-- The coding of the body cannot be undone. -/
  | undecodable (fault : CodingFault)
deriving DecidableEq

namespace BodyFault

/-- The status of the answer to a fault. -/
def status : BodyFault → Nat
  | .lengthUnknown => 400
  | .tooLong => 413
  | .undecodable _ => 400

/-- The text that tells a fault. -/
def message : BodyFault → String
  | .lengthUnknown => "payload length is unknown"
  | .tooLong => "payload reached size limit"
  | .undecodable fault =>
    "payload reached EOF before completing: Some(" ++ fault.report ++ ")"

end BodyFault

namespace Request

/-- The most bytes that a body has. -/
def longestBody : Nat := 262144

/-- A body has no more than a number of bytes. -/
def checkLength (length : Nat) : Except BodyFault Unit :=
  if longestBody < length then .error .tooLong else .ok ()

/-- The length that a text declares: digits, after a plus sign or none, within
64 bits. -/
def lengthOfText? (text : String) : Option Nat :=
  let digits := match text.toList with
    | '+' :: digits => digits
    | digits => digits
  let length := Decimal.valueOf digits
  if !digits.isEmpty && digits.all Char.isDigit && length < UInt64.size then some length else none

/-- The declaration of a length has to be one of a body that is not too long. -/
def checkDeclaration (declared : Option String) : Except BodyFault Unit :=
  match declared.map lengthOfText? with
  | none => .ok ()
  | some none => .error .lengthUnknown
  | some (some length) => checkLength length

/-- The length of a request's body, or what is declared of a body it lacks, has
to be within the bound. -/
def checkBody (request : Request) : Except BodyFault Unit :=
  match request.body with
  | some body => checkLength body.utf8ByteSize
  | none => checkDeclaration (request.header? "Content-Length")

/-- Take the body of a request with its coding undone.  Bytes that are no text
are taken as none. -/
def takeBody (request : Request) : Except BodyFault (Option String) := do
  request.checkBody
  let body := request.body.getD ""
  match request.coding? with
  | none => return some body
  | some coding =>
    match coding.decode body with
    | .error fault => throw (.undecodable fault)
    | .ok bytes =>
      checkLength bytes.size
      return String.fromUTF8? bytes

end Request

end Relational
