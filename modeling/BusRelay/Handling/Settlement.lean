import BusRelay.Handling.Dispatch
/-!
# Settlement

A message is taken off its entity when the sink has all of its events, and only then. Otherwise it
is left as it is, and the broker delivers it again when its lock has run out.
-/

namespace BusRelay

/-- A message in hand, and what the broker will answer when it is completed. -/
structure Delivery where
  message : Message
  completion : CompletionAnswer := .ok ()

/-- What came of settling. -/
structure Settled where
  result : HandlingResult
  actions : List Action

def completedRecord (id : MessageId) : Log.Record :=
  { level := .debug, target := "pipeline::ack", message := "message completed",
    fields := [("message_id", .text id.text)] }

def unsettledRecord (id : MessageId) (failures : Nat) : Log.Record :=
  { level := .debug, target := "pipeline::ack",
    message := "leaving message unsettled for redelivery",
    fields := [("message_id", .text id.text), ("failed_events", .number failures)] }

/-- How a message ends whose completion was answered. -/
def completionResult (id : MessageId) : CompletionAnswer → HandlingResult
  | .ok () => .ok ()
  | .error fault => .error (.unacknowledged id fault)

/-- What is recorded of a completion. -/
def completionRecords (id : MessageId) : CompletionAnswer → List Log.Record
  | .ok () => [completedRecord id]
  | .error _ => []

/-- Completes a message whose events were all taken. Without a message there is nothing to do. -/
def settle (delivery : Option Delivery) (batch : List Undelivered) : Settled :=
  match delivery with
  | none => ⟨.ok (), []⟩
  | some delivery =>
    let id := delivery.message.id
    if batch.isEmpty then
      ⟨completionResult id delivery.completion,
        .completed id delivery.completion ::
          (completionRecords id delivery.completion).map .logged⟩
    else ⟨.error (.undelivered batch), [.logged (unsettledRecord id batch.length)]⟩

end BusRelay
