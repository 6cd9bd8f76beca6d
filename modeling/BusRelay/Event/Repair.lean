import BusRelay.Event.Validation
import BusRelay.Log.Record
/-!
# Repairing events

Senders are known to fill in a schema that is none. Such an event is sent without it. No other
violation is repaired, and an event is repaired once.
-/

namespace BusRelay.Event

/-- The event without a schema that was found to be none, and what is logged about it. -/
def repair (v : Violations) (e : Event) : Event × List Log.Record :=
  if v.contains "dataschema" then
    ({ e with schema := none },
      [{ level := .debug, target := "pipeline::sanitize",
         message := "clearing invalid dataschema attribute", fields := [("event_id", .text e.id)] }])
  else (e, [])

/-- The event as it is sent, and what is logged about it. -/
def prepare (e : Event) : Event × List Log.Record :=
  match e.validate with
  | .ok () => (e, [])
  | .error v =>
    let (repaired, records) := e.repair v
    (repaired,
      { level := .debug, target := "pipeline::dispatch",
        message := "event failed validation, sanitizing",
        fields := [("event_id", .text e.id), ("failure", .text v.message)] } :: records)

end BusRelay.Event
