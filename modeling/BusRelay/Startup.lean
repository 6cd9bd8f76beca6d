import BusRelay.Broker.Directory
import BusRelay.Conversion.Processor
import BusRelay.Relay.Report
import BusRelay.Settings.Configuration
import BusRelay.Sink.Sender
/-!
# Startup

A configuration becomes a source that listens, or it is refused before the broker is asked for
anything: because of the entity, the processor, the sink or the credentials, in this order. Two
settings that are too great bring the program down instead.
-/

namespace BusRelay

/-- Why a configuration is refused. -/
inductive StartupFault where
  | setting (fault : SettingFault)
  | target (fault : TargetFault)
  | access (attempts : List Binding.Attempt)

def StartupFault.message : StartupFault → String
  | setting fault => fault.message
  | target fault => fault.message
  | access attempts => "connecting to Service Bus: " ++ Binding.attemptsMessage attempts

/-- A source that is ready to listen. -/
structure Source where
  entity : Entity
  conversion : Conversion
  posting : Posting
  binding : Binding
  receiver : Receiver
  settings : Relay.Settings

/-- How startup ends. -/
inductive Launch where
  | refused (fault : StartupFault)
  /-- The time to wait for the broker, or the number of messages at a time, is beyond all limits. -/
  | crashed
  | listening (source : Source)

/-- A launch and what is recorded on the way. -/
structure Launched where
  launch : Launch
  records : List Log.Record := []

/-- Adds records in front. -/
def Launched.after (records : List Log.Record) (l : Launched) : Launched :=
  { l with records := records ++ l.records }

/-- A record of the program itself. -/
def programRecord (level : Log.Level) (message : String)
    (fields : List (String × Log.Field) := []) : Log.Record :=
  { level, target := "sbsource", message, fields }

namespace Configuration

def startingRecord (e : Entity) (c : Conversion) : Log.Record :=
  programRecord .info "starting Service Bus source"
    [("entity", .text e.raw), ("entity_path", .text e.path.text), ("processor", .text c.name)]

/-- Binds to the entity, once it is known how events are posted. -/
def connect (c : Configuration) (entity : Entity) (conversion : Conversion) (posting : Posting) :
    Launched :=
  if c.requestTimeout?.isNone then ⟨.crashed, []⟩
  else
    let records := Binding.records entity c.credentials
    match Binding.bind entity c.credentials with
    | .error attempts => ⟨.refused (.access attempts), records⟩
    | .ok binding =>
      if c.relay.permits ≤ Relay.maxPermits then
        let receiver : Receiver :=
          { endpoint := binding.endpoint, path := entity.path
            timeout := .ofSeconds c.receiveTimeout }
        ⟨.listening ⟨entity, conversion, posting, binding, receiver, c.relay⟩, records⟩
      else ⟨.crashed, records ++ (Relay.Happening.published .listening).records c.relay
        (fun _ _ => []) (fun _ => "")⟩

/-- Starts the source. -/
def launch (c : Configuration) : Launched :=
  match Entity.parse c.entity with
  | .error fault => ⟨.refused (.setting fault), []⟩
  | .ok entity => match Conversion.ofName c.processor with
    | .error fault => ⟨.refused (.setting fault), []⟩
    | .ok conversion =>
      .after [startingRecord entity conversion] <| match c.posting with
        | .error fault => ⟨.refused (.target fault), []⟩
        | .ok posting => c.connect entity conversion posting

end Configuration

end BusRelay
