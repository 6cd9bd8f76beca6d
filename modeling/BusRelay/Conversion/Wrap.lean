import BusRelay.Codec.Base64
import BusRelay.Event.Basic
import BusRelay.Json.Reader
import BusRelay.Message
import BusRelay.Time.Rfc3339
/-!
# Messages as events

A message becomes one event that carries the message as a JSON object: what the broker says about it
under fixed names, and its body as JSON if it is a document, else as text if it is UTF-8, else as
Base64 text.
-/

namespace BusRelay.Wrap

/-- The kind of the events. -/
def eventKind : String := "com.microsoft.azure.servicebus.message"

/-- A body as a value. -/
def bodyValue (body : Utf8.Bytes) : Json :=
  match Json.decode? body with
  | some value => value
  | none => match Utf8.text? body with
    | some text => .string text
    | none => .string (Base64.encode body)

/-- The members of the payload. -/
def members (m : Message) : Entries Json :=
  [("ID", .string m.id.text),
    ("ContentType", .optionalText m.contentType),
    ("CorrelationID", .optionalText m.correlationId),
    ("Label", .optionalText m.label),
    ("SessionID", .optionalText m.sessionId),
    ("DeliveryCount", .natural m.deliveryCount),
    ("SequenceNumber", match m.sequenceNumber with
      | some n => .number (.integer n)
      | none => .null),
    ("EnqueuedTime", .optionalText (m.enqueuedTime.map Rfc3339.textWithOffset)),
    ("UserProperties", .object m.properties.entries),
    ("Data", bodyValue m.body)]

/-- The message as a JSON object. -/
def payload (m : Message) : Json := .object (Entries.sorted (members m))

/-- The subject of the event: the label, unless it is empty. -/
def subject (m : Message) : Option String :=
  match m.label with
  | some "" => none
  | label => label

/-- The event of a message. -/
def event (source : String) (m : Message) : Event :=
  { id := m.id.text
    source
    kind := eventKind
    time := m.eventTime
    subject := subject m
    contentType := some "application/json"
    payload := some (.json (payload m)) }

end BusRelay.Wrap
