import BusRelay.Event.Structured
import BusRelay.Message
/-!
# Messages that hold events

The body of a message is an event in structured form, or a list of them. If one of them is none, the
whole message is refused, so that no event is sent again with every delivery of the message.
-/

namespace BusRelay.Unpack

open Json (Tree Fault)

/-- Why a body is refused. -/
inductive BodyFault where
  /-- The text breaks off, at an offset into the body. -/
  | notJson (fault : Fault)
  /-- A document of another shape. -/
  | notEvents
  | badEvent (index : Nat) (fault : StructuredEvent.ConversionFault)

def BodyFault.message (body : Utf8.Bytes) : BodyFault → String
  | notJson fault => "body is not a CloudEvent or a batch of CloudEvents: " ++ fault.message body
  | notEvents => "body is not a CloudEvent or a batch of CloudEvents: " ++
      "data did not match any variant of untagged enum Body"
  | badEvent index fault => s!"event at index {index}: {fault.message}"

/-- The events in a value, or none if it has another shape. -/
def readEvents? : Tree → Option (List StructuredEvent)
  | .array _ items _ => items.mapM fun item => (StructuredEvent.ofTree item).toOption
  | tree => (StructuredEvent.ofTree tree).toOption.map ([·])

/-- The events that a body holds. A text that breaks off is reported before a wrong shape, and that
before anything that follows the value. -/
def readBody (body : Utf8.Bytes) : Except BodyFault (List StructuredEvent) :=
  let (tree, left) := Json.readTree body
  match left with
  | .error fault => .error (.notJson fault)
  | .ok rest => match readEvents? tree with
    | none => .error .notEvents
    | some events => match Json.endOfDocument rest with
      | .error fault => .error (.notJson fault)
      | .ok () => .ok events

/-- The events from an index on. -/
def toEvents (source : String) (time : Instant) :
    (index : Nat) → List StructuredEvent → Except BodyFault (List Event)
  | _, [] => .ok []
  | index, e :: rest => match e.toEvent source time with
    | .error fault => .error (.badEvent index fault)
    | .ok event => (toEvents source time (index + 1) rest).map (event :: ·)

/-- The events of a message. -/
def events (source : String) (m : Message) : Except BodyFault (List Event) := do
  toEvents source m.eventTime 0 (← readBody m.body)

end BusRelay.Unpack
