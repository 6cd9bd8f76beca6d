import BusRelay.Broker.LockToken
import BusRelay.Broker.Properties
import BusRelay.Handling.Fault
import BusRelay.Http.Client
import BusRelay.Http.Status
import BusRelay.Log.Record
import BusRelay.Time.Duration
import BusRelay.Time.Rfc2822
/-!
# Receiving

A message at the head of an entity is locked and handed out in one exchange, and taken off the entity
in another one that deletes its lock. The broker's word on a message travels in a header of its own,
the application's in all headers that are not part of the exchange.
-/

namespace BusRelay

open Http (Peer Request Reply Response)

/-- Gives a token for a resource, or says why it cannot, from one state to the next. -/
abbrev Tokens (τ : Type) := τ → (uri : String) → Except BrokerFault String × τ

/-- Where messages are received from. -/
structure Receiver where
  /-- The root of the namespace. -/
  endpoint : Url
  path : EntityPath
  /-- How long the broker waits for a message. -/
  timeout : Duration := .ofSeconds 60

/-- A message in hand, and where its lock is. -/
structure Locked where
  message : Message
  lock : String

namespace Receiver

/-- Without slashes at the end. -/
def withoutSlashes (s : String) : String :=
  String.ofList (s.toList.reverse.dropWhile (· = '/')).reverse

/-- The entity, for which tokens are asked. -/
def entityUri (r : Receiver) : String := withoutSlashes r.endpoint.text ++ "/" ++ r.path.text

/-- Where messages are asked for. -/
def receiveUrl (r : Receiver) : String := s!"{r.entityUri}/messages/head?timeout={r.timeout.seconds}"

/-- How much longer than the broker the client waits. -/
def margin : Duration := .ofSeconds 10

/-- How long the client waits when the broker waits so long, if that can be told. -/
def requestTimeout? (timeout : Duration) : Option Duration :=
  if timeout.nanoseconds + margin.nanoseconds ≤ Duration.max.nanoseconds then
    some ⟨timeout.nanoseconds + margin.nanoseconds⟩
  else none

/-- The headers that are part of the exchange. -/
def exchangeHeaders : List String :=
  ["brokerproperties", "cache-control", "connection", "content-encoding", "content-length",
    "content-type", "date", "expires", "location", "pragma", "server", "strict-transport-security",
    "transfer-encoding", "vary"]

/-- Whether a header is a word of the application. -/
def isProperty (name : String) : Bool :=
  !exchangeHeaders.contains name && !("x-ms-".toList.isPrefixOf name.toList)

/-- A text as the value it writes, or as itself. -/
def propertyValue (text : String) : Json :=
  (Json.decode? (Utf8.bytes text)).getD (.string text)

/-- The application's words in headers. -/
def properties (headers : List (String × Utf8.Bytes)) : Dict Json :=
  Dict.ofList <| headers.filterMap fun (name, value) =>
    if isProperty name then (Http.visibleText? value).map fun text => (name, propertyValue text)
    else none

/-- The broker's words in a response. -/
def brokerProperties (response : Response) : Except BrokerFault BrokerProperties :=
  match response.header? "brokerproperties" with
  | none => .ok {}
  | some value => match BrokerProperties.decode value with
    | .ok p => .ok p
    | .error fault =>
      .error (.transient ("malformed BrokerProperties header: " ++ fault.message value))

/-- The name of a message: its own, else that of its lock. -/
def messageId? (p : BrokerProperties) (token : Option LockToken) : Option MessageId :=
  (p.messageId.bind Identifier.ofText?).or (token.bind fun t => Identifier.ofText? t.text)

/-- A header as text. -/
def headerText? (response : Response) (name : String) : Option String :=
  (response.header? name).bind Http.visibleText?

/-- The message in a response. A message without a time gets that of its receipt. -/
def locked (uri : String) (now : Instant) (response : Response) : Except BrokerFault Locked := do
  let p ← brokerProperties response
  let token := p.lockToken.bind LockToken.parse?
  let id ← match messageId? p token with
    | some id => pure id
    | none => throw (.transient "received message has neither ID nor lock token")
  let lock ← match headerText? response "location", token with
    | some location, _ => pure location
    | none, some token => pure s!"{uri}/messages/{id.text}/{token.text}"
    | none, none => throw (.transient s!"message {id.text} has no lock token")
  let time := p.enqueuedTime.bind fun text => (Rfc2822.read text).toOption
  return {
    lock
    message := {
      id
      body := response.body
      contentType := headerText? response "content-type"
      correlationId := p.correlationId
      label := p.label
      sessionId := p.sessionId
      deliveryCount := p.deliveryCount.getD 1
      sequenceNumber := p.sequenceNumber
      enqueuedTime := some (time.getD now)
      properties := properties response.headers } }

/-- What a status other than success means: some will not change by asking again. -/
def statusFault (status : Nat) (action : String) : BrokerFault :=
  let reason := s!"{action}: Service Bus responded with status {Http.statusText status}"
  if status = 401 ∨ status = 403 ∨ status = 404 then .fatal reason else .transient reason

/-- What the response to a request for a message means. -/
def received (uri : String) (now : Instant) :
    Except Http.ClientFault Response → Except BrokerFault (Option Locked)
  | .error fault => .error (.transient ("receiving message: " ++ fault.message))
  | .ok response =>
    if response.status = 204 then .ok none
    else if response.status = 200 ∨ response.status = 201 then
      if response.isComplete then some <$> locked uri now response
      else .error (.transient ("reading message body: " ++ Http.brokenBody))
    else .error (statusFault response.status "receiving message")

/-! ## Records -/

/-- The part of the work that the records of a receipt belong to. -/
def span (r : Receiver) : Log.Span :=
  ⟨"listener::servicebus", "receive", [("entity", .text r.path.text)]⟩

/-- What is recorded of a message in hand. -/
def receivedRecord (r : Receiver) (m : Message) : Log.Record :=
  { level := .debug, target := "listener::servicebus", message := "received message",
    fields := [("message_id", .text m.id.text), ("delivery_count", .number m.deliveryCount)],
    spans := [r.span] }

/-- What is recorded of a lock that was not deleted. -/
def rejectedRecord (lock : String) (status : Nat) : Log.Record :=
  { level := .warn, target := "listener::servicebus", message := "message completion rejected",
    fields := [("lock_uri", .text lock), ("status", .text (Http.statusText status))] }

/-! ## Asking -/

/-- What came of asking the broker. -/
structure Asked (α τ σ : Type) where
  result : Except BrokerFault α
  /-- Every request that was sent, with its reply. -/
  sent : List (Request × Reply)
  records : List Log.Record
  tokens : τ
  peer : σ

/-- What an answer of the broker means, and what is recorded of it. -/
abbrev Meaning (α : Type) :=
  Except Http.ClientFault Response → Except BrokerFault α × List Log.Record

/-- Asks the broker with a token for the entity. Without one nothing is sent. -/
def ask {α τ σ : Type} (tokens : Tokens τ) (peer : Peer σ) (uri : String)
    (request : (token : String) → Option Request) (meaning : Meaning α) (state : τ × σ) :
    Asked α τ σ :=
  match tokens state.1 uri with
  | (.error fault, t) => ⟨.error fault, [], [], t, state.2⟩
  | (.ok token, t) =>
    let exchange := Http.carryOut? peer state.2 (request token)
    let (result, records) := meaning exchange.result
    ⟨result, exchange.sent, records, t, exchange.state⟩

/-- The request for a message. -/
def receiveRequest? (r : Receiver) (token : String) : Option Request :=
  Request.ofText? .post r.receiveUrl
    (Dict.ofList [("authorization", token), ("content-length", "0")]) []

/-- Receives a message. -/
def receive {τ σ : Type} (r : Receiver) (tokens : Tokens τ) (peer : Peer σ) (now : Instant)
    (state : τ × σ) : Asked (Option Locked) τ σ :=
  ask tokens peer r.entityUri r.receiveRequest? (fun answer =>
    match received r.entityUri now answer with
    | .ok (some locked) => (.ok (some locked), [r.receivedRecord locked.message])
    | result => (result, [])) state

/-- What the response to the deletion of a lock means. -/
def completed (lock : String) : Meaning Unit
  | .error fault => (.error (.transient ("completing message: " ++ fault.message)), [])
  | .ok response =>
    if Http.isSuccess response.status then (.ok (), [])
    else (.error (statusFault response.status "completing message"),
      [rejectedRecord lock response.status])

/-- The request that deletes a lock. -/
def completeRequest? (lock token : String) : Option Request :=
  Request.ofText? .delete lock (Dict.ofList [("authorization", token)]) []

/-- Takes a message off the entity. -/
def complete {τ σ : Type} (r : Receiver) (tokens : Tokens τ) (peer : Peer σ) (lock : String)
    (state : τ × σ) : Asked Unit τ σ :=
  ask tokens peer r.entityUri (completeRequest? lock) (completed lock) state

end Receiver

end BusRelay
