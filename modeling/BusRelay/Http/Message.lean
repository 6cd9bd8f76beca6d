import BusRelay.Dict
import BusRelay.Url.Parser
/-!
# Requests and responses

Header names are lowercase. A request has one value for each name, and the credentials of the user of its
URL besides. A response may repeat names, and its values are any octets.
-/

namespace BusRelay.Http

open Utf8 (Bytes)

inductive Method where
  | get
  | post
  | delete
  deriving DecidableEq, Repr

/-- A request. -/
structure Request where
  method : Method
  url : Url
  headers : Dict String := {}
  body : Bytes := []
  /-- The credentials of the user of its URL, another header `authorization` before the one it may have. -/
  credentials : Option String := none

/-- A request to a URL that is given as a text, if it is one. -/
def Request.ofText? (method : Method) (url : String) (headers : Dict String) (body : Bytes) :
    Option Request :=
  match Url.parse url with
  | .ok url => some { method, url, headers, body }
  | .error _ => none

/-- A response, which may break off before the end of its body. -/
structure Response where
  status : Nat
  headers : List (String × Bytes) := []
  body : Bytes := []
  isComplete : Bool := true

/-- Whether a status says that a request was carried out. -/
def isSuccess (status : Nat) : Bool := 200 ≤ status && status < 300

/-- The first value of a header. -/
def Response.header? (r : Response) (name : String) : Option Bytes :=
  (r.headers.find? fun header => header.1 = name).map Prod.snd

/-- A character that header names are made of. -/
def isNameChar (c : Char) : Bool :=
  c.isAlphanum || "!#$%&'*+-.^_\x60|~".toList.contains c

/-- The longest header name. -/
def maxNameLength : Nat := 65535

/-- Whether a text is the name of a header. -/
def isHeaderName (name : String) : Bool :=
  name ≠ "" && name.toList.length ≤ maxNameLength && name.toList.all isNameChar

/-- An octet that header values are made of. -/
def isValueOctet (b : UInt8) : Bool := (32 ≤ b && b ≠ 127) || b == 9

/-- Whether a text is the value of a header. -/
def isHeaderValue (value : String) : Bool := (Utf8.bytes value).all isValueOctet

/-- The value as text, if it is visible ASCII, blanks and tabs. -/
def visibleText? (value : Bytes) : Option String :=
  if value.all fun b => (32 ≤ b && b < 127) || b == 9 then
    some (String.ofList (value.map fun b => Char.ofNat b.toNat))
  else none

end BusRelay.Http
