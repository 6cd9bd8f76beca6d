import BusRelay.Handling.Settlement
import BusRelay.Time.Duration
/-!
# The relay

The relay receives messages and hands each one to a handler of its own, so many at a time. What it is
told to do, what it can be given, and what happens on the way. Times are in milliseconds.
-/

namespace BusRelay.Relay

/-- How the relay works. -/
structure Settings where
  /-- How many messages are handled at a time. None counts as one. -/
  concurrency : Nat := 1
  /-- The pause after a fault that may pass. -/
  pause : Nat := 1000
  /-- How long the handlers that are left may take when the relay ends. -/
  drain : Nat := 10000
  deriving DecidableEq, Repr

/-- The number of permits to handle a message. -/
def Settings.permits (s : Settings) : Nat := max 1 s.concurrency

/-- The greatest number of permits there can be. -/
def maxPermits : Nat := (Nat.pow 2 64 - 1) / 8

/-- What others can see of the relay. -/
inductive Stage where
  | idle
  | listening
  | stopped
  deriving DecidableEq, Repr

/-- How a call goes. -/
structure Reply (α : Type) where
  /-- How long it takes, if it comes to an end at all. -/
  delay : Option Nat := some 0
  /-- What it answers. Without an answer it ends in a crash. -/
  answer : Option α

/-- A sink that takes time: what becomes of an event is settled when the sink is called. -/
abbrev TimedSink (σ : Type) := σ → Event → Reply SendAnswer × σ

/-- A delivery and how the call that completes it goes. -/
structure Handout where
  delivery : Delivery
  delay : Option Nat := some 0
  crashes : Bool := false

def Handout.id (h : Handout) : MessageId := h.delivery.message.id

/-- What a receipt answers. -/
inductive Receipt where
  | nothing
  | handout (h : Handout)
  | fault (f : BrokerFault)

/-- How the relay ends: on demand, or because the broker will not have it any more. -/
abbrev Outcome := Except BrokerFault Unit

/-- The message of a broker that ended the relay. -/
def terminatedMessage (f : BrokerFault) : String := "broker connection terminated: " ++ f.message

/-- How a handler ends. -/
inductive Ending where
  | reported (result : HandlingResult)
  | crashed
  | aborted

/-- What a handler does. -/
inductive Deed where
  | acted (action : Action)
  /-- The sink is called. -/
  | called (event : Event)
  /-- The broker is called. -/
  | completing
  /-- The handler is done; if it has a result, this is reported. -/
  | ended (how : Ending)

/-- What happens while the relay runs. Handlers are numbered in the order of their deliveries. -/
inductive Happening where
  | published (stage : Stage)
  | cancelled
  | called
  | received (receipt : Receipt)
  | did (handler : Nat) (deed : Deed)
  /-- The relay has ended and some handlers are not yet joined. -/
  | waiting (handlers : Nat)
  /-- The time is up for these handlers. -/
  | gaveUp (handlers : Nat)
  | joined (handler : Nat) (how : Ending)

end BusRelay.Relay
