import BusRelay.Event.Basic
import BusRelay.Handling.Fault
import BusRelay.Http.Message
import BusRelay.Time.Rfc3339
/-!
# Events in headers

Every context attribute of an event is a header of its own, with its value percent-encoded, and the
type of the payload is the content type. Header names have no letter case, and of two attributes with
one header the later one stays.
-/

namespace BusRelay.EventHeaders

/-- An octet that stands for itself: printable ASCII but the quote and the percent sign. -/
def isPlain (b : UInt8) : Bool := 0x21 ≤ b && b ≤ 0x7E && b ≠ 34 && b ≠ 37

/-- A value as it stands in a header. -/
def encodeValue (value : String) : String := Percent.encode isPlain value

/-- The header of an attribute. -/
def headerName (name : String) : String :=
  String.ofList (("ce-" ++ name).toList.map Char.toLower)

/-- The context attributes that are set, in order. -/
def attributes (e : Event) : List (String × String) :=
  [("specversion", e.specVersion), ("id", e.id), ("source", e.source), ("type", e.kind),
    ("time", Rfc3339.text e.time)] ++
  (e.subject.map fun value => ("subject", value)).toList ++
  (e.schema.map fun value => ("dataschema", value)).toList ++
  e.extensions.entries

/-- Why an event cannot be written in headers. -/
inductive Fault where
  | badName (name : String)
  /-- What a header should carry cannot stand there. -/
  | badValue (header : String)
  | badContentType
  deriving DecidableEq, Repr

def Fault.message : Fault → String
  | badName name => s!"invalid attribute name {Quoted.quote name}: invalid HTTP header name"
  | badValue header => s!"invalid attribute value for {header}: failed to parse header value"
  | badContentType => "invalid content type: failed to parse header value"

/-- Adds the headers of attributes. -/
def putAll (headers : Dict String) : List (String × String) → Except Fault (Dict String)
  | [] => .ok headers
  | (name, value) :: rest =>
    if Http.isHeaderName ("ce-" ++ name) then
      if Http.isHeaderValue (encodeValue value) then
        putAll (headers.insert (headerName name) (encodeValue value)) rest
      else .error (.badValue (headerName name))
    else .error (.badName name)

/-- The headers of an event. -/
def headers (e : Event) : Except Fault (Dict String) := do
  let headers ← putAll {} (attributes e)
  match e.contentType with
  | none => return headers
  | some value =>
    if Http.isHeaderValue value then return headers.insert "content-type" value
    else throw .badContentType

end BusRelay.EventHeaders
