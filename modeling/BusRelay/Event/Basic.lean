import BusRelay.Dict
import BusRelay.Json.Printer
import BusRelay.Text.Utf8
import BusRelay.Time.Instant
/-!
# Events

An event with its context attributes and its payload. The attributes of its own are fields, the
others are extensions by name.
-/

namespace BusRelay

/-- What an event carries. -/
inductive Payload where
  | json (value : Json)
  | binary (octets : Utf8.Bytes)

/-- The octets of a payload as they are sent. -/
def Payload.octets : Payload → Utf8.Bytes
  | json value => Utf8.bytes value.text
  | binary octets => octets

/-- The version of the event format. -/
def formatVersion : String := "1.0"

/-- An event. -/
structure Event where
  specVersion : String := formatVersion
  id : String
  source : String
  kind : String
  time : Instant
  subject : Option String := none
  /-- Where the schema of the payload is. -/
  schema : Option String := none
  contentType : Option String := none
  payload : Option Payload := none
  extensions : Dict String := {}

end BusRelay
