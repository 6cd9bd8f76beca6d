import BusRelay.Relay.Basic
/-!
# What the relay logs

The records of a run, one after the other, as they follow from what happened.
-/

namespace BusRelay.Relay

/-- The part of the work that the records of the loop belong to. -/
def loopSpan : Log.Span := ⟨"listener::listener", "listener", []⟩

def loopRecord (level : Log.Level) (message : String) (fields : List (String × Log.Field)) :
    Log.Record :=
  { level, target := "listener::listener", message, fields, spans := [loopSpan] }

/-- What is recorded of a receipt. -/
def receiptRecords (s : Settings) : Receipt → List Log.Record
  | .nothing => [loopRecord .trace "no message available" []]
  | .handout _ => []
  | .fault (.fatal reason) => [loopRecord .error "broker connection failed"
      [("error", .text (BrokerFault.fatal reason).message)]]
  | .fault (.transient reason) => [loopRecord .warn "receive failed"
      [("error", .text (BrokerFault.transient reason).message),
        ("backoff", .text (Duration.ofMilliseconds s.pause).text)]]

/-- What is recorded of a handler that is joined. -/
def joinedRecords (failure : String) : Ending → List Log.Record
  | .reported _ => []
  | .crashed => [loopRecord .error "message handler task failed" [("error", .text failure)]]
  | .aborted => [loopRecord .trace "message handler aborted" []]

/-- What is recorded of a happening. What is recorded of a result is up to `observe`, and `failure`
tells how the crash of a handler reads. -/
def Happening.records (s : Settings) (observe : Nat → HandlingResult → List Log.Record)
    (failure : Nat → String) : Happening → List Log.Record
  | published .idle => []
  | published .listening =>
    [loopRecord .info "listening for messages" [("max_concurrent_calls", .number s.permits)]]
  | published .stopped => [loopRecord .info "listener stopped" []]
  | cancelled | called => []
  | received receipt => receiptRecords s receipt
  | did _ (.acted action) => action.record?.toList
  | did handler (.ended (.reported result)) => observe handler result
  | did .. => []
  | waiting handlers =>
    [loopRecord .info "waiting for in-flight messages" [("in_flight", .number handlers)]]
  | gaveUp handlers =>
    [loopRecord .warn "in-flight messages did not finish in time, aborting"
      [("aborted", .number handlers),
        ("drain_timeout", .text (Duration.ofMilliseconds s.drain).text)]]
  | joined handler how => joinedRecords (failure handler) how

end BusRelay.Relay
