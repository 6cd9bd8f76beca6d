import BusRelay.Http.Client
import BusRelay.Log.Record
import BusRelay.Sink.Headers
import BusRelay.Sink.Retry
import BusRelay.Sink.Target
/-!
# Posting events

An event is posted with its attributes in the headers and its payload as the body. Any status of
success is a positive answer.
-/

namespace BusRelay.Sender

/-- The part of the work that the records of an event belong to. -/
def span (e : Event) : Log.Span :=
  ⟨"sink::http", "send", [("event_id", .text e.id), ("event_type", .text e.kind)]⟩

def acceptedRecord (e : Event) (status : Nat) : Log.Record :=
  { level := .debug, target := "sink::http", message := "event accepted",
    fields := [("event_id", .text e.id), ("status", .number status)] }

/-- What is recorded before the attempts after the first one, which are counted from one. -/
def retryRecords (pauses : List (SendFault × Duration)) : List Log.Record :=
  pauses.zipIdx.map fun ((fault, pause), index) =>
    { level := .warn, target := "sink::http", message := "retrying event delivery",
      fields := [("error", .text fault.message), ("attempt", .number (index + 1)),
        ("backoff", .text pause.text)] }

/-- The request of an event. -/
def request (target : Url) (headers : Dict String) (e : Event) : Http.Request :=
  { method := .post, url := target, headers
    body := match e.payload with
      | some payload => payload.octets
      | none => [] }

/-- What the response to a posted event means. -/
def answerOf : Except Http.ClientFault Http.Response → SendAnswer
  | .ok response =>
    if Http.isSuccess response.status then .ok () else .error (.status response.status)
  | .error fault => .error (if fault.isTimeout then .timeout else .transport fault.message)

/-- What attempts have done so far. -/
structure Progress (σ : Type) where
  peer : σ
  /-- Every request that was sent, with its reply. -/
  sent : List (Http.Request × Http.Reply) := []
  /-- The status of the last response. -/
  status : Nat := 0

/-- Posts a request once. -/
def attempt {σ : Type} (peer : Http.Peer σ) (request : Http.Request) (progress : Progress σ) :
    SendAnswer × Progress σ :=
  let exchange := Http.carryOut peer progress.peer request
  (answerOf exchange.result,
    { peer := exchange.state
      sent := progress.sent ++ exchange.sent
      status := match exchange.result with
        | .ok response => response.status
        | .error _ => progress.status })

/-- What came of posting an event. -/
structure Posted (σ : Type) where
  answer : SendAnswer
  /-- The pauses between the attempts. -/
  pauses : List Duration
  sent : List (Http.Request × Http.Reply)
  records : List Log.Record
  state : σ

/-- Posts an event, again and again if need be. -/
def send {σ : Type} (posting : Posting) (peer : Http.Peer σ) (state : σ) (e : Event) : Posted σ :=
  match EventHeaders.headers e with
  | .error fault => ⟨.error (.transport fault.message), [], [], [], state⟩
  | .ok headers =>
    let tried := tryAgain (attempt peer (request posting.target headers e)) posting.retries
      posting.pause { peer := state }
    let accepted := match tried.answer with
      | .ok () => [acceptedRecord e tried.state.status]
      | .error _ => []
    { answer := tried.answer
      pauses := tried.pauses.map Prod.snd
      sent := tried.state.sent
      records := (retryRecords tried.pauses ++ accepted).map (.within (span e))
      state := tried.state.peer }

end BusRelay.Sender
