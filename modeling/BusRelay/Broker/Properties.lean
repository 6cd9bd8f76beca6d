import BusRelay.Json.Record
/-!
# What the broker says about a message

The properties of a message in a header of their own, as a JSON object. Every one may be left out or
null, and members with other names are skipped. A list of all of them in their order is read as well.
-/

namespace BusRelay

open Json (Tree Fault)

/-- What the broker says about a message. -/
structure BrokerProperties where
  messageId : Option String := none
  lockToken : Option String := none
  sequenceNumber : Option Int := none
  deliveryCount : Option Nat := none
  label : Option String := none
  correlationId : Option String := none
  sessionId : Option String := none
  enqueuedTime : Option String := none

namespace BrokerProperties

/-- The names of the properties, in order. -/
def names : List String :=
  ["MessageId", "LockToken", "SequenceNumber", "DeliveryCount", "Label", "CorrelationId",
    "SessionId", "EnqueuedTimeUtc"]

/-- Sets the property of this name. -/
def set (p : BrokerProperties) (name : String) (value : Tree) : Except Fault BrokerProperties := do
  let asText := value.nullOr Tree.asText
  match name with
  | "MessageId" => return { p with messageId := ← asText }
  | "LockToken" => return { p with lockToken := ← asText }
  | "SequenceNumber" =>
    let number ← value.nullOr (Json.readInteger (-Int.pow 2 63) (Int.pow 2 63 - 1) "i64")
    return { p with sequenceNumber := number }
  | "DeliveryCount" =>
    let count ← value.nullOr (Json.readInteger 0 (Int.pow 2 32 - 1) "u32")
    return { p with deliveryCount := count.map Int.toNat }
  | "Label" => return { p with label := ← asText }
  | "CorrelationId" => return { p with correlationId := ← asText }
  | "SessionId" => return { p with sessionId := ← asText }
  | "EnqueuedTimeUtc" => return { p with enqueuedTime := ← asText }
  | _ => return p

/-- How the properties are read. None of them has to be given. -/
def record : Json.Record BrokerProperties BrokerProperties where
  name := "BrokerProperties"
  members := names
  empty := {}
  set := set
  complete := .ok

/-- The properties that a text writes. -/
def decode (text : Utf8.Bytes) : Except Fault BrokerProperties := record.decode text

end BrokerProperties

end BusRelay
