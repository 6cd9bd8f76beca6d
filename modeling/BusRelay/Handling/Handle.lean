import BusRelay.Conversion.Processor
import BusRelay.Handling.Settlement
/-!
# Handling a message

A message is processed into events, these are sent, and the message is settled, in this order. What
cannot be processed ends at once.
-/

namespace BusRelay

namespace HandlingRecord

/-- The part of the work that the records of a message belong to. -/
def span (id : MessageId) : Log.Span :=
  ⟨"pipeline::handler", "handle", [("message_id", .text id.text)]⟩

def plain (message : String) (fields : List (String × Log.Field)) : Log.Record :=
  { level := .debug, target := "pipeline::handler", message, fields }

def processing (m : Message) : Log.Record :=
  plain "processing message"
    [("body_size", .number m.body.length), ("delivery_count", .number m.deliveryCount)]

def dispatching (events : Nat) : Log.Record :=
  plain "dispatching events" [("event_count", .number events)]

def finalizing (failures : Nat) : Log.Record :=
  plain "finalizing message" [("failed_events", .number failures)]

/-- What is recorded of a message when its handling has ended. -/
def handled (id : Option MessageId) (result : HandlingResult) : Log.Record :=
  let text := (id.map Identifier.text).getD ""
  match result with
  | .ok () => plain "message handled" [("message_id", .text text)]
  | .error fault =>
    { plain "error handling message" [("message_id", .text text), ("error", .text fault.text)] with
      level := .error }

end HandlingRecord

/-- What came of handling. -/
structure Handled (σ : Type) where
  result : HandlingResult
  actions : List Action
  state : σ

/-- Handles a delivery. Without one there is nothing to do. -/
def handle {σ : Type} (processor : Processor) (sink : Sink σ) (state : σ) :
    Option Delivery → Handled σ
  | none => ⟨.ok (), [], state⟩
  | some delivery =>
    let id := delivery.message.id
    let inSpan (actions : List Action) := actions.map (.within (HandlingRecord.span id))
    let start := Action.logged (HandlingRecord.processing delivery.message)
    match processor delivery.message with
    | .error fault => ⟨.error (.processing fault), inSpan [start], state⟩
    | .ok events =>
      let dispatched := dispatch sink state events
      let settled := settle (some delivery) dispatched.batch
      { result := settled.result
        actions := inSpan <|
          [start, .logged (HandlingRecord.dispatching events.length)] ++ dispatched.actions ++
            .logged (HandlingRecord.finalizing dispatched.batch.length) :: settled.actions
        state := dispatched.state }

end BusRelay
