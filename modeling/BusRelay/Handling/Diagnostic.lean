import BusRelay.Handling.Settlement
import BusRelay.Json.Diagnostic
import BusRelay.Time.Rfc3339
/-!
# Messages and events in diagnostics

Every part of a message, a delivery or an event, in a fixed order. A delivery does not show how it is
completed.
-/

namespace BusRelay

open Quoted (quote brackets braces optional record)

/-- Octets as numbers. -/
def octetsDiagnostic (octets : Utf8.Bytes) : String :=
  brackets (octets.map fun b => toString b.toNat)

def Message.diagnostic (m : Message) : String :=
  record "RawMessage"
    [("id", "MessageId(" ++ quote m.id.text ++ ")"),
      ("body", octetsDiagnostic m.body),
      ("content_type", optional (m.contentType.map quote)),
      ("correlation_id", optional (m.correlationId.map quote)),
      ("label", optional (m.label.map quote)),
      ("session_id", optional (m.sessionId.map quote)),
      ("delivery_count", toString m.deliveryCount),
      ("sequence_number", optional (m.sequenceNumber.map Json.integerText)),
      ("enqueued_time", optional (m.enqueuedTime.map Rfc3339.text)),
      ("user_properties",
        braces (m.properties.entries.map fun (name, value) => (quote name, value.diagnostic)))] true

def Delivery.diagnostic (d : Delivery) : String :=
  record "Delivery" [("message", d.message.diagnostic)] false

def Payload.diagnostic : Payload → String
  | json value => "Json(" ++ value.diagnostic ++ ")"
  | binary octets => "Binary(" ++ octetsDiagnostic octets ++ ")"

def Event.diagnostic (e : Event) : String :=
  record "EventEnvelope"
    [("specversion", quote e.specVersion),
      ("id", quote e.id),
      ("source", quote e.source),
      ("event_type", quote e.kind),
      ("time", Rfc3339.text e.time),
      ("subject", optional (e.subject.map quote)),
      ("dataschema", optional (e.schema.map quote)),
      ("datacontenttype", optional (e.contentType.map quote)),
      ("data", optional (e.payload.map Payload.diagnostic)),
      ("extensions", braces (e.extensions.entries.map fun (name, value) => (quote name, quote value)))]
    true

end BusRelay
