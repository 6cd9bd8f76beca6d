import BusRelay.Handling.Handle
import BusRelay.Relay.Basic
/-!
# Handlers

A handler does for one delivery what handling it alone does, but stops at every call and goes on when
the call has come to its end. It can be aborted wherever it stops.
-/

namespace BusRelay.Relay

/-- Where a handler has stopped. -/
inductive Work where
  /-- It was not started yet. -/
  | queued
  /-- The sink was called for an event; `rest` comes after it and `batch` was not taken. -/
  | sending (event : Event) (rest : List Event) (batch : List Undelivered) (due : Option Nat)
      (answer : Option SendAnswer)
  /-- The broker was called. -/
  | completing (due : Option Nat)
  | ended (how : Ending)

namespace Work

def isEnded : Work → Bool
  | ended _ => true
  | _ => false

/-- Whether a call has come to its end. -/
def reached (now : Nat) : Option Nat → Bool
  | some due => due ≤ now
  | none => false

/-- Whether a handler can go on. -/
def isReady (now : Nat) : Work → Bool
  | queued => true
  | sending _ _ _ due _ | completing due => reached now due
  | ended _ => false

/-- When a handler can go on, if it waits for a time. -/
def due? : Work → Option Nat
  | sending _ _ _ due _ | completing due => due
  | _ => none

end Work

/-- What came of going on. -/
structure Advance (σ : Type) where
  work : Work
  deeds : List Deed
  sink : σ

/-- Records as deeds of the handler of a message. -/
def recordDeeds (id : MessageId) (records : List Log.Record) : List Deed :=
  records.map fun r => .acted (.logged (r.within (HandlingRecord.span id)))

/-- Ends with a result. -/
def report {σ : Type} (result : HandlingResult) (deeds : List Deed) (sink : σ) : Advance σ :=
  ⟨.ended (.reported result), deeds ++ [.ended (.reported result)], sink⟩

/-- When a call that starts now comes to its end. -/
def dueAfter (now : Nat) (delay : Option Nat) : Option Nat := delay.map (now + ·)

/-- Sends the next event, or settles the message if there is none. -/
def next {σ : Type} (sink : TimedSink σ) (now : Nat) (h : Handout) (state : σ)
    (batch : List Undelivered) (deeds : List Deed) : List Event → Advance σ
  | event :: rest =>
    let (prepared, records) := event.prepare
    let (reply, state) := sink state prepared
    { work := .sending event rest batch (dueAfter now reply.delay) reply.answer
      deeds := deeds ++ recordDeeds h.id records ++ [.called prepared]
      sink := state }
  | [] =>
    let deeds := deeds ++ recordDeeds h.id [HandlingRecord.finalizing batch.length]
    if batch.isEmpty then ⟨.completing (dueAfter now h.delay), deeds ++ [.completing], state⟩
    else report (.error (.undelivered batch))
      (deeds ++ recordDeeds h.id [unsettledRecord h.id batch.length]) state

/-- Ends in a crash. -/
def crash {σ : Type} (sink : σ) : Advance σ := ⟨.ended .crashed, [.ended .crashed], sink⟩

/-- Goes on from where a handler has stopped. -/
def proceed {σ : Type} (processor : Processor) (sink : TimedSink σ) (now : Nat) (h : Handout)
    (state : σ) : Work → Advance σ
  | .queued =>
    let started := recordDeeds h.id [HandlingRecord.processing h.delivery.message]
    match processor h.delivery.message with
    | .error fault => report (.error (.processing fault)) started state
    | .ok events => next sink now h state []
        (started ++ recordDeeds h.id [HandlingRecord.dispatching events.length]) events
  | .sending event rest batch _ answer =>
    match answer with
    | none => crash state
    | some answer =>
      let failed := (event.undelivered? answer).toList
      next sink now h state (batch ++ failed)
        (.acted (.sent event.prepare.1 answer) ::
          recordDeeds h.id (failed.map Undelivered.record)) rest
  | .completing _ =>
    if h.crashes then crash state
    else
      let answer := h.delivery.completion
      report (completionResult h.id answer)
        (.acted (.completed h.id answer) :: recordDeeds h.id (completionRecords h.id answer)) state
  | .ended how => ⟨.ended how, [], state⟩

end BusRelay.Relay
