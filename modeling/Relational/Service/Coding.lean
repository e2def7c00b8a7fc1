import Relational.Compression.Brotli
import Relational.Compression.Deflate
import Relational.Compression.Zstandard
import Relational.Service.Request

/-!
# Codings of bodies

A request may name the coding of its body in a header.  The coding is undone
before the body is read.  A coded body that breaks off stands for what can be
read of it, one that means nothing is a fault.
-/

namespace Relational

/-- How a body is coded. -/
inductive ContentCoding where
  | gzip
  | deflate
  | brotli
  | zstandard
deriving DecidableEq

/-- Why the coding of a body cannot be undone. -/
inductive CodingFault where
  | gzipHeader
  | gzipChecksum
  | deflateStream
  | brotliData
  | frameDescriptor
  /-- The body goes on behind the end of what is coded. -/
  | leftOver
deriving DecidableEq

namespace CodingFault

/-- A fault with its kind and its wording. -/
def custom (kind wording : String) : String :=
  "Custom \x7b kind: " ++ kind ++ ", error: \"" ++ wording ++ "\" \x7d"

/-- The report of a fault. -/
def report : CodingFault → String
  | .gzipHeader => custom "InvalidInput" "invalid gzip header"
  | .gzipChecksum =>
    custom "InvalidInput" "corrupt gzip stream does not have a matching checksum"
  | .deflateStream => custom "InvalidInput" "corrupt deflate stream"
  | .brotliData => custom "InvalidData" "Invalid Data"
  | .frameDescriptor => custom "Other" "Unknown frame descriptor"
  | .leftOver => "Error \x7b kind: WriteZero, message: \"failed to write whole buffer\" \x7d"

end CodingFault

namespace ContentCoding

open Compression

/-- The coding that a header names, in any mix of cases.  Any other name stands
for no coding. -/
def ofName? (name : String) : Option ContentCoding :=
  match lowerAscii (Unicode.trim name) with
  | "gzip" => some .gzip
  | "deflate" => some .deflate
  | "br" => some .brotli
  | "zstd" => some .zstandard
  | _ => none

/-- The fault of a body that is not what its coding asks for. -/
def faultOf (invalid : CodingFault) : Unpacking.Fault → CodingFault
  | .invalid => invalid
  | .leftOver => .leftOver

/-- A gzip stream has a header of this many bytes. -/
def gzipHeaderLength : Nat := 10

/-- No text is a gzip stream, since the first two bytes of one are not UTF-8.  The
header is looked at as soon as it is complete. -/
def gzipFault (bytes : ByteArray) : CodingFault :=
  if bytes.size < gzipHeaderLength then .gzipChecksum else .gzipHeader

/-- The bytes that a text stands for in a coding. -/
def decode (coding : ContentCoding) (text : String) : Except CodingFault ByteArray :=
  let bytes := text.toUTF8
  match coding with
  | .gzip => .error (gzipFault bytes)
  | .deflate => (Unpacking.run Deflate.stream bytes).mapError (faultOf .deflateStream)
  | .brotli => (Unpacking.run Brotli.stream bytes).mapError (faultOf .brotliData)
  | .zstandard => (Unpacking.run Zstandard.stream bytes).mapError (faultOf .frameDescriptor)

end ContentCoding

namespace Request

/-- The coding of a request's body, if it has one. -/
def coding? (request : Request) : Option ContentCoding :=
  (request.textHeader? "Content-Encoding").bind ContentCoding.ofName?

end Request

end Relational
