import BusRelay.Message
import BusRelay.Text.Quoted
/-!
# What can go wrong with a message

A message that is not understood, an event that the sink does not take, and a broker that does not
answer as it should. None of these ends the work on other messages.
-/

namespace BusRelay

/-- A message that no events can be made of. -/
structure ProcessingFault where
  message : MessageId
  reason : String
  deriving DecidableEq

def ProcessingFault.text (f : ProcessingFault) : String :=
  s!"processing Service Bus message with ID {f.message.text}: {f.reason}"

/-- Why the sink does not have an event. -/
inductive SendFault where
  /-- The sink answered with another status than success. -/
  | status (code : Nat)
  | timeout
  /-- The exchange with the sink failed. -/
  | transport (reason : String)
  deriving DecidableEq, Repr

namespace SendFault

def message : SendFault → String
  | status code => s!"sink responded with status {code}"
  | timeout => "timeout"
  | transport reason => reason

/-- Whether the same event may be taken another time: all but a status that blames the event. -/
def isRetryable : SendFault → Bool
  | status code => code == 429 || 500 ≤ code
  | timeout | transport _ => true

end SendFault

/-- What a sink answers. -/
abbrev SendAnswer := Except SendFault Unit

/-- An event that the sink did not take. -/
structure Undelivered where
  event : String
  fault : SendFault
  deriving DecidableEq, Repr

namespace Undelivered

def message (u : Undelivered) : String :=
  s!"failed to send event with ID {u.event}: {u.fault.message}"

/-- The messages of several events, each between quotes. -/
def batchMessage (batch : List Undelivered) : String :=
  Quoted.brackets (batch.map fun u => Quoted.quote u.message)

end Undelivered

/-- Why the broker did not do what it was asked. -/
inductive BrokerFault where
  /-- Another try may succeed. -/
  | transient (reason : String)
  /-- No other try will succeed. -/
  | fatal (reason : String)
  deriving DecidableEq, Repr

def BrokerFault.message : BrokerFault → String
  | transient reason => "broker request failed: " ++ reason
  | fatal reason => "broker rejected the request: " ++ reason

/-- What the broker answers when a message is to be completed. -/
abbrev CompletionAnswer := Except BrokerFault Unit

/-- Why a message was not handled. -/
inductive HandlingFault where
  | processing (fault : ProcessingFault)
  | undelivered (batch : List Undelivered)
  /-- All events were sent, and the broker did not take the message off the entity. -/
  | unacknowledged (message : MessageId) (fault : BrokerFault)
  deriving DecidableEq

def HandlingFault.text : HandlingFault → String
  | processing fault => fault.text
  | undelivered batch => "sending events to the sink: " ++ Undelivered.batchMessage batch
  | unacknowledged message fault =>
    s!"completing Service Bus message with ID {message.text}: {fault.message}"

/-- How the handling of a message ends. -/
abbrev HandlingResult := Except HandlingFault Unit

end BusRelay
