import BusRelay.Event.Repair
import BusRelay.Handling.Fault
/-!
# Dispatch

The events of a message are sent in order, one after the other, and a failure does not keep the next
ones back. What was not taken is collected. The sink may remember what it was sent: it goes from one
state to the next with every event.
-/

namespace BusRelay

/-- Takes events, and answers for each. -/
abbrev Sink (σ : Type) := σ → Event → SendAnswer × σ

/-- What is done for a message, step by step. -/
inductive Action where
  | logged (record : Log.Record)
  | sent (event : Event) (answer : SendAnswer)
  | completed (message : MessageId) (answer : CompletionAnswer)

namespace Action

def record? : Action → Option Log.Record
  | logged record => some record
  | _ => none

def sentEvent? : Action → Option Event
  | sent event _ => some event
  | _ => none

def isCompletion : Action → Bool
  | completed .. => true
  | _ => false

/-- The action with its record as part of more work. -/
def within (span : Log.Span) : Action → Action
  | logged record => logged (record.within span)
  | action => action

end Action

/-- What is recorded of an event that was not taken. -/
def Undelivered.record (u : Undelivered) : Log.Record :=
  { level := .warn, target := "pipeline::dispatch", message := "failed to send event",
    fields := [("event_id", .text u.event), ("error", .text u.fault.message)] }

/-- What an answer adds to the events that were not taken. -/
def Event.undelivered? (e : Event) : SendAnswer → Option Undelivered
  | .ok () => none
  | .error fault => some ⟨e.id, fault⟩

/-- What came of sending events. -/
structure Dispatched (σ : Type) where
  batch : List Undelivered
  actions : List Action
  state : σ

/-- Sends events. -/
def dispatch {σ : Type} (sink : Sink σ) (state : σ) : List Event → Dispatched σ
  | [] => ⟨[], [], state⟩
  | event :: rest =>
    let (prepared, records) := event.prepare
    let (answer, state) := sink state prepared
    let failed := (event.undelivered? answer).toList
    let after := dispatch sink state rest
    { batch := failed ++ after.batch
      actions := records.map .logged ++ .sent prepared answer ::
        failed.map (.logged ·.record) ++ after.actions
      state := after.state }

end BusRelay
