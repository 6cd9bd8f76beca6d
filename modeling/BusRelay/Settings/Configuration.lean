import BusRelay.Broker.Binding
import BusRelay.Broker.Receiver
import BusRelay.Conversion.Kind
import BusRelay.Relay.Basic
import BusRelay.Settings.Environment
import BusRelay.Sink.Target
/-!
# The configuration

Everything that the environment can set. A value that is not of the kind that a setting needs is
refused before one that is missing, and settings are looked at in the order of the structure.
-/

namespace BusRelay

/-- Why no configuration can be loaded. -/
inductive LoadFault where
  | missing (name : String)
  /-- A value of another kind, and whether it is told where the value stands. -/
  | mismatch (name : String) (found : Mismatch) (needed : SettingKind) (located : Bool)
  deriving DecidableEq, Repr

def LoadFault.message : LoadFault → String
  | missing name => s!"missing field \x60{name}\x60"
  | mismatch name found needed located =>
    s!"invalid type: {found.name}, expected {needed.name} for key \x60{name}\x60" ++
      if located then " in the environment" else ""

namespace Environment

/-- What a name is set to as something that a setting needs, if it is set. -/
def load {α : Type} (env : Environment) (name : String) (needed : SettingKind)
    (convert : SettingValue → Except (Mismatch × SettingKind) α) : Except LoadFault (Option α) :=
  match env.setting? name with
  | none => .ok none
  | some .table => .error (.mismatch name .table needed false)
  | some .sequence => .error (.mismatch name .sequence needed false)
  | some (.value v) => match convert v with
    | .ok x => .ok (some x)
    | .error (found, needed) => .error (.mismatch name found needed true)

def loadText (env : Environment) (name : String) : Except LoadFault (Option String) :=
  env.load name .text fun v => .ok v.asText

def loadFlag (env : Environment) (name : String) : Except LoadFault (Option Bool) :=
  env.load name .flag SettingValue.asFlag

def loadNatural (env : Environment) (name : String) : Except LoadFault (Option Nat) :=
  env.load name .integer SettingValue.asNatural

/-- An integer of 32 bits. -/
def loadShort (env : Environment) (name : String) : Except LoadFault (Option Nat) :=
  match env.loadNatural name with
  | .ok (some n) =>
    if n < Nat.pow 2 32 then .ok (some n) else .error (.mismatch name (.natural n) .short false)
  | other => other

end Environment

/-- What the environment has set, or else what holds by itself. -/
structure Configuration where
  /-- The resource ID of the entity to receive from. -/
  entity : String
  processor : String
  credentials : Credentials
  /-- Where events are sent. -/
  sink : String
  concurrency : Nat
  /-- In seconds, as `sendTimeout`. -/
  receiveTimeout : Nat
  retries : Nat
  sendTimeout : Nat
  logLevel : String
  /-- Whether spans are exported. -/
  exportsSpans : Bool
  /-- Where spans are exported to. -/
  collector : String
  /-- The name that spans are exported under. -/
  service : String
  deriving DecidableEq

namespace Configuration

/-- The names of the settings. -/
def names : List String :=
  ["servicebus_entity_resource_id", "servicebus_message_processor", "servicebus_key_name",
    "servicebus_key_value", "servicebus_connection_string", "azure_tenant_id", "azure_client_id",
    "azure_client_secret", "k_sink", "servicebus_max_concurrent_calls",
    "servicebus_receive_timeout_secs", "sink_retries", "sink_timeout_secs", "log_level",
    "otel_enabled", "otel_endpoint", "otel_service_name"]

/-- A setting that there has to be. -/
def required {α : Type} (name : String) : Option α → Except LoadFault α
  | some x => .ok x
  | none => .error (.missing name)

/-- The configuration in an environment. -/
def load (env : Environment) : Except LoadFault Configuration := do
  let entity ← env.loadText "servicebus_entity_resource_id"
  let processor ← env.loadText "servicebus_message_processor"
  let keyName ← env.loadText "servicebus_key_name"
  let keyValue ← env.loadText "servicebus_key_value"
  let connectionString ← env.loadText "servicebus_connection_string"
  let tenant ← env.loadText "azure_tenant_id"
  let client ← env.loadText "azure_client_id"
  let secret ← env.loadText "azure_client_secret"
  let sink ← env.loadText "k_sink"
  let concurrency ← env.loadNatural "servicebus_max_concurrent_calls"
  let receiveTimeout ← env.loadNatural "servicebus_receive_timeout_secs"
  let retries ← env.loadShort "sink_retries"
  let sendTimeout ← env.loadNatural "sink_timeout_secs"
  let logLevel ← env.loadText "log_level"
  let exportsSpans ← env.loadFlag "otel_enabled"
  let collector ← env.loadText "otel_endpoint"
  let service ← env.loadText "otel_service_name"
  let entity ← required "servicebus_entity_resource_id" entity
  let sink ← required "k_sink" sink
  return {
    entity
    processor := processor.getD "default"
    credentials := { keyName, keyValue, connectionString, tenant, client, secret }
    sink
    concurrency := concurrency.getD 1
    receiveTimeout := receiveTimeout.getD 60
    retries := retries.getD 0
    sendTimeout := sendTimeout.getD 30
    logLevel := logLevel.getD "info"
    exportsSpans := exportsSpans.getD false
    collector := collector.getD "http://localhost:4317"
    service := service.getD "sbsource" }

/-- How the relay works. -/
def relay (c : Configuration) : Relay.Settings := { concurrency := c.concurrency }

/-- How events are posted. -/
def posting (c : Configuration) : Except TargetFault Posting :=
  (Posting.ofTarget c.sink).map fun p =>
    { p with retries := c.retries, timeout := .ofSeconds c.sendTimeout }

/-- How long the client waits for the broker, if that can be told. -/
def requestTimeout? (c : Configuration) : Option Duration :=
  Receiver.requestTimeout? (.ofSeconds c.receiveTimeout)

/-- The configuration in a diagnostic shows no secret. -/
def diagnostic (c : Configuration) : String :=
  Quoted.record "AppConfig"
    [("servicebus_entity_resource_id", Quoted.quote c.entity),
      ("servicebus_message_processor", Quoted.quote c.processor),
      ("credentials", c.credentials.diagnostic),
      ("k_sink", Quoted.quote c.sink),
      ("servicebus_max_concurrent_calls", toString c.concurrency),
      ("servicebus_receive_timeout_secs", toString c.receiveTimeout),
      ("sink_retries", toString c.retries),
      ("sink_timeout_secs", toString c.sendTimeout),
      ("log_level", Quoted.quote c.logLevel),
      ("otel_enabled", toString c.exportsSpans),
      ("otel_endpoint", Quoted.quote c.collector),
      ("otel_service_name", Quoted.quote c.service)] true

end Configuration

end BusRelay
