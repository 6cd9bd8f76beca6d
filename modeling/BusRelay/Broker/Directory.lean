import BusRelay.Broker.Receiver
import BusRelay.Broker.Token
import BusRelay.Json.Record
import BusRelay.Log.Record
/-!
# Tokens of the directory

The directory gives a principal a token for some time. A token is kept and handed out again until
shortly before that time is over. Times are those of a clock that only goes forward, up to a limit.
-/

namespace BusRelay

open Http (Peer Request Reply Response)

/-- Where a principal asks for tokens. -/
structure Directory where
  authority : String
  principal : Principal

namespace Directory

/-- The authority of the public cloud. -/
def publicAuthority : String := "https://login.microsoftonline.com"

/-- What tokens are for. -/
def scope : String := "https://servicebus.azure.net/.default"

def url (d : Directory) : String :=
  s!"{Receiver.withoutSlashes d.authority}/{d.principal.tenant}/oauth2/v2.0/token"

/-- The form that asks for a token. -/
def form (d : Directory) : String :=
  Form.pairs [("grant_type", "client_credentials"), ("client_id", d.principal.client),
    ("client_secret", d.principal.secret), ("scope", scope)]

/-- The request for a token. -/
def request? (d : Directory) : Option Request :=
  Request.ofText? .post d.url (Dict.ofList [("content-type", "application/x-www-form-urlencoded")])
    (Utf8.bytes d.form)

/-- A token and the seconds that it is good for. -/
structure Issued where
  token : String
  lifetime : Nat
  deriving DecidableEq

/-- What is known of a token before the end of its text. -/
structure Issued.Draft where
  token : Option String := none
  lifetime : Option Nat := none

namespace Issued

/-- Sets the member of this name. -/
def Draft.set (draft : Draft) (name : String) (value : Json.Tree) : Except Json.Fault Draft := do
  match name with
  | "access_token" => return { draft with token := some (← value.asText) }
  | "expires_in" =>
    let lifetime ← Json.readInteger 0 Json.maxNatural "u64" value
    return { draft with lifetime := some lifetime.toNat }
  | _ => return draft

/-- The token, if both members were given. -/
def Draft.complete : Draft → Except Json.Problem Issued
  | ⟨some token, some lifetime⟩ => .ok ⟨token, lifetime⟩
  | ⟨none, _⟩ => .error (.missingMember "access_token")
  | ⟨_, none⟩ => .error (.missingMember "expires_in")

/-- How a token is read. Members with other names are skipped. -/
def record : Json.Record Draft Issued where
  name := "TokenResponse"
  members := ["access_token", "expires_in"]
  empty := {}
  set := Draft.set
  complete := Draft.complete

/-- The token that a text writes. -/
def decode (text : Utf8.Bytes) : Except Json.Fault Issued := record.decode text

end Issued

/-- What a status other than success means. -/
def statusFault (status : Nat) : BrokerFault :=
  let reason := s!"AAD token endpoint responded with status {Http.statusText status}"
  if 400 ≤ status ∧ status < 500 then .fatal reason else .transient reason

/-- What the response to a request for a token means. -/
def issued : Except Http.ClientFault Response → Except BrokerFault Issued
  | .error fault => .error (.transient ("requesting AAD token: " ++ fault.message))
  | .ok response =>
    if Http.isSuccess response.status then
      match if response.isComplete then (Issued.decode response.body).toOption else none with
      | some token => .ok token
      | none => .error (.transient ("decoding AAD token response: " ++ Http.brokenBody))
    else .error (statusFault response.status)

/-- A token that is kept. -/
structure Kept where
  token : String
  /-- When another one is asked for. -/
  refreshAt : Duration
  deriving DecidableEq

/-- How long before its end a token is not handed out any more. -/
def margin : Nat := 300

/-- The seconds that the clock can show. -/
def clockLimit : Nat := Nat.pow 2 63

/-- When a token that came at a time is to be refreshed, unless the clock does not go that far. -/
def refreshAt? (arrived : Duration) (lifetime : Nat) : Option Duration :=
  let t : Duration := ⟨arrived.nanoseconds + (Duration.ofSeconds (lifetime - margin)).nanoseconds⟩
  if t.seconds < clockLimit then some t else none

/-- What is handed out. -/
inductive Grant where
  | header (value : String)
  | fault (fault : BrokerFault)
  /-- A token whose time the clock cannot show: this ends the program. -/
  | beyondClock
  deriving DecidableEq

/-- The header of a token. -/
def bearer (token : String) : String := "Bearer " ++ token

/-- What came of asking for a token. -/
structure Granted (σ : Type) where
  grant : Grant
  kept : Option Kept
  sent : List (Request × Reply)
  records : List Log.Record
  peer : σ

/-- What is recorded of a new token. -/
def acquiredRecord (issued : Issued) : Log.Record :=
  { level := .debug, target := "listener::token", message := "acquired AAD token",
    fields := [("expires_in", .number issued.lifetime)] }

/-- Hands out a token: the one that is kept, or a new one. `now` is when it is asked for and `arrived`
when a new one has come. -/
def authorize {σ : Type} (d : Directory) (peer : Peer σ) (now arrived : Duration)
    (kept : Option Kept) (state : σ) : Granted σ :=
  match kept.filter fun k => now.nanoseconds < k.refreshAt.nanoseconds with
  | some k => ⟨.header (bearer k.token), kept, [], [], state⟩
  | none =>
    let exchange := Http.carryOut? peer state d.request?
    match issued exchange.result with
    | .error fault => ⟨.fault fault, kept, exchange.sent, [], exchange.state⟩
    | .ok token =>
      let records := [acquiredRecord token]
      match refreshAt? arrived token.lifetime with
      | none => ⟨.beyondClock, kept, exchange.sent, records, exchange.state⟩
      | some refreshAt =>
        ⟨.header (bearer token.token), some ⟨token.token, refreshAt⟩, exchange.sent, records,
          exchange.state⟩

end Directory

end BusRelay
