import BusRelay.Dict
import BusRelay.Identifier
import BusRelay.Json.Value
import BusRelay.Time.Instant
/-!
# Messages

A message as the broker hands it out: an opaque body, and what the broker and the sender of the
message say about it.
-/

namespace BusRelay

/-- A message of the broker. -/
structure Message where
  id : MessageId
  body : Utf8.Bytes
  contentType : Option String := none
  correlationId : Option String := none
  label : Option String := none
  sessionId : Option String := none
  /-- How often the message was delivered, this time included. -/
  deliveryCount : Nat := 1
  sequenceNumber : Option Int := none
  enqueuedTime : Option Instant := none
  /-- What the application says in its own words. -/
  properties : Dict Json := {}

/-- When what a message tells of happened; the start of 1970 if the message has no time. -/
def Message.eventTime (m : Message) : Instant := m.enqueuedTime.getD .epoch

end BusRelay
