import BusRelay.Proofs.Except
import BusRelay.Proofs.Settings.Value
import BusRelay.Settings.Configuration
/-!
# What is loaded from the environment

A setting that is a text is what its variable stands for, written as a text, and one that is an integer is
what its variable stands for as a number. So a text is taken as it is if it is written as what it stands for is,
and an integer of 64 bits as the integer that is written (`load_taken`). What is written otherwise is not
refused, though, but written anew: leading zeros are lost, and fractions are rounded (`load_rewrites`).
-/

namespace BusRelay

open Floating (WritesInteger)
open SettingValue (Canonical StandsFor)

namespace Environment

variable {env : Environment} {name : String}

/-- What is loaded for a name that is set was made of what its text stands for. -/
theorem load_set {α : Type} {needed : SettingKind} {convert : SettingValue → Except (Mismatch × SettingKind) α}
    {loaded : Option α} (ok : env.load name needed convert = .ok loaded) {place : Place} {text : String}
    (set : env.last? name = some (place, text)) :
    place = .whole ∧ ∃ v x, StandsFor text v ∧ convert v = .ok x ∧ loaded = some x := by
  unfold load setting? at ok
  rw [set] at ok
  cases place with
  | table => cases ok
  | sequence => cases ok
  | whole =>
    refine ⟨rfl, SettingValue.read text, ?_⟩
    dsimp only [Option.map_some] at ok
    split at ok
    · rename_i x made
      cases ok
      exact ⟨x, SettingValue.standsFor_read text, made, rfl⟩
    · cases ok

/-- The greatest integer of 32 bits. -/
def maxShort : Nat := 4294967295

/-- An integer of 32 bits is one that is not too great. -/
theorem loadShort_ok {loaded : Option Nat} (ok : env.loadShort name = .ok loaded) :
    env.loadNatural name = .ok loaded ∧ ∀ n, loaded = some n → n ≤ maxShort := by
  unfold loadShort at ok
  split at ok
  · rename_i n found
    split at ok
    · rename_i short
      cases ok
      refine ⟨found, fun m same => ?_⟩
      cases same
      exact Nat.le_of_lt_succ short
    · cases ok
  · rename_i other
    refine ⟨ok, fun n same => ?_⟩
    subst same
    exact absurd ok (other n)

end Environment

namespace Configuration

/-- The settings that are texts, by name. -/
def texts (c : Configuration) : List (String × Option String) :=
  [("servicebus_entity_resource_id", some c.entity), ("servicebus_message_processor", some c.processor),
    ("servicebus_key_name", c.credentials.keyName), ("servicebus_key_value", c.credentials.keyValue),
    ("servicebus_connection_string", c.credentials.connectionString), ("azure_tenant_id", c.credentials.tenant),
    ("azure_client_id", c.credentials.client), ("azure_client_secret", c.credentials.secret),
    ("k_sink", some c.sink), ("log_level", some c.logLevel), ("otel_endpoint", some c.collector),
    ("otel_service_name", some c.service)]

/-- A setting that is an integer, and the greatest one that it can be. -/
structure Counted where
  name : String
  value : Nat
  limit : Nat

/-- The settings that are integers. -/
def integers (c : Configuration) : List Counted :=
  [⟨"servicebus_max_concurrent_calls", c.concurrency, SettingValue.maxNatural⟩,
    ⟨"servicebus_receive_timeout_secs", c.receiveTimeout, SettingValue.maxNatural⟩,
    ⟨"sink_retries", c.retries, Environment.maxShort⟩, ⟨"sink_timeout_secs", c.sendTimeout, SettingValue.maxNatural⟩]

theorem required_ok {α : Type} {name : String} {x? : Option α} {x : α} (ok : required name x? = .ok x) :
    x? = some x := by
  cases x? with
  | none => cases ok
  | some y =>
    cases ok
    rfl

/-- Each setting is what is loaded for its name, if anything is. -/
theorem load_each {env : Environment} {c : Configuration} (loaded : load env = .ok c) :
    (∀ s ∈ c.texts, ∃ text?, env.loadText s.1 = .ok text? ∧ ∀ text, text? = some text → s.2 = some text) ∧
    ∀ s ∈ c.integers, ∃ n?, env.loadNatural s.name = .ok n? ∧ ∀ n, n? = some n → s.value = n ∧
      (n ≤ SettingValue.maxNatural → n ≤ s.limit) := by
  obtain ⟨entity, entity_ok, loaded⟩ := bind_ok loaded
  obtain ⟨processor, processor_ok, loaded⟩ := bind_ok loaded
  obtain ⟨keyName, keyName_ok, loaded⟩ := bind_ok loaded
  obtain ⟨keyValue, keyValue_ok, loaded⟩ := bind_ok loaded
  obtain ⟨connectionString, connectionString_ok, loaded⟩ := bind_ok loaded
  obtain ⟨tenant, tenant_ok, loaded⟩ := bind_ok loaded
  obtain ⟨client, client_ok, loaded⟩ := bind_ok loaded
  obtain ⟨secret, secret_ok, loaded⟩ := bind_ok loaded
  obtain ⟨sink, sink_ok, loaded⟩ := bind_ok loaded
  obtain ⟨concurrency, concurrency_ok, loaded⟩ := bind_ok loaded
  obtain ⟨receiveTimeout, receiveTimeout_ok, loaded⟩ := bind_ok loaded
  obtain ⟨retries, retries_ok, loaded⟩ := bind_ok loaded
  obtain ⟨sendTimeout, sendTimeout_ok, loaded⟩ := bind_ok loaded
  obtain ⟨logLevel, logLevel_ok, loaded⟩ := bind_ok loaded
  obtain ⟨exportsSpans, -, loaded⟩ := bind_ok loaded
  obtain ⟨collector, collector_ok, loaded⟩ := bind_ok loaded
  obtain ⟨service, service_ok, loaded⟩ := bind_ok loaded
  obtain ⟨source, source_ok, loaded⟩ := bind_ok loaded
  obtain ⟨target, target_ok, loaded⟩ := bind_ok loaded
  cases loaded
  obtain rfl := required_ok source_ok
  obtain rfl := required_ok target_ok
  obtain ⟨retries_ok, short⟩ := Environment.loadShort_ok retries_ok
  constructor
  · intro s mem
    simp only [texts, List.mem_cons, List.not_mem_nil, or_false] at mem
    rcases mem with rfl | rfl | rfl | rfl | rfl | rfl | rfl | rfl | rfl | rfl | rfl | rfl
    · exact ⟨_, entity_ok, fun _ same => same⟩
    · exact ⟨_, processor_ok, fun _ same => by rw [same]; rfl⟩
    · exact ⟨_, keyName_ok, fun _ same => same⟩
    · exact ⟨_, keyValue_ok, fun _ same => same⟩
    · exact ⟨_, connectionString_ok, fun _ same => same⟩
    · exact ⟨_, tenant_ok, fun _ same => same⟩
    · exact ⟨_, client_ok, fun _ same => same⟩
    · exact ⟨_, secret_ok, fun _ same => same⟩
    · exact ⟨_, sink_ok, fun _ same => same⟩
    · exact ⟨_, logLevel_ok, fun _ same => by rw [same]; rfl⟩
    · exact ⟨_, collector_ok, fun _ same => by rw [same]; rfl⟩
    · exact ⟨_, service_ok, fun _ same => by rw [same]; rfl⟩
  · intro s mem
    simp only [integers, List.mem_cons, List.not_mem_nil, or_false] at mem
    rcases mem with rfl | rfl | rfl | rfl
    · exact ⟨_, concurrency_ok, fun _ same => ⟨by rw [same]; rfl, id⟩⟩
    · exact ⟨_, receiveTimeout_ok, fun _ same => ⟨by rw [same]; rfl, id⟩⟩
    · exact ⟨_, retries_ok, fun n same => ⟨by rw [same]; rfl, fun _ => short n same⟩⟩
    · exact ⟨_, sendTimeout_ok, fun _ same => ⟨by rw [same]; rfl, id⟩⟩

/-- **What is loaded from the environment.** Let a configuration be loaded. Each setting that is a text is what
the last variable of its name stands for, written as a text; so if this variable is written in the same way
already, the setting is its text. Each setting that is an integer is what its variable stands for as a number, and one
that it can be; so if the variable writes an integer of 64 bits, the setting is this integer. A variable that
sets parts of a name is refused. -/
theorem load_taken {env : Environment} {c : Configuration} (loaded : load env = .ok c) :
    (∀ s ∈ c.texts, ∀ place text, env.last? s.1 = some (place, text) → place = .whole ∧
      ∃ v, StandsFor text v ∧ s.2 = some v.asText ∧ (Canonical text → s.2 = some text)) ∧
    (∀ s ∈ c.integers, ∀ place text, env.last? s.name = some (place, text) → place = .whole ∧
      s.value ≤ s.limit ∧ ∃ v, StandsFor text v ∧ v.asNatural = .ok s.value ∧
        ∀ n, WritesInteger text.toList n → SettingValue.fits n = true → (s.value : Int) = n) := by
  obtain ⟨texts, integers⟩ := load_each loaded
  refine ⟨fun s mem place text set => ?_, fun s mem place text set => ?_⟩
  · obtain ⟨text?, ok, same⟩ := texts s mem
    obtain ⟨whole, v, x, stands, made, found⟩ := Environment.load_set ok set
    cases made
    refine ⟨whole, v, stands, same _ found, fun canonical => ?_⟩
    rw [same _ found, stands.asText_of_canonical canonical]
  · obtain ⟨n?, ok, same⟩ := integers s mem
    obtain ⟨whole, v, n, stands, made, found⟩ := Environment.load_set ok set
    obtain ⟨value, limit⟩ := same n found
    rw [value]
    exact ⟨whole, limit (stands.natural_le made), v, stands, made,
      fun m writes small => stands.natural_of_integer writes small made⟩

namespace Sample

/-- An environment with a key of this value and this number of repetitions. -/
def environment (key retries : String) : Environment :=
  [("SERVICEBUS_ENTITY_RESOURCE_ID",
      "/subscriptions/s/resourceGroups/rg/providers/Microsoft.ServiceBus/namespaces/ns1/queues/q1"),
    ("K_SINK", "http://sink.default.svc"), ("SERVICEBUS_KEY_NAME", "Root"), ("SERVICEBUS_KEY_VALUE", key),
    ("SINK_RETRIES", retries)]

end Sample

/-- A key that is no number and a number of repetitions are taken as they are. -/
theorem load_taken_sample :
    ∃ c, load (Sample.environment "hunter2" "3") = .ok c ∧ c.credentials.keyValue = some "hunter2" ∧
      c.retries = 3 := by
  have ⟨made, key, retries⟩ : (load (Sample.environment "hunter2" "3")).toOption.isSome = true ∧
      (Sample.environment "hunter2" "3").last? "servicebus_key_value" = some (.whole, "hunter2") ∧
      (Sample.environment "hunter2" "3").last? "sink_retries" = some (.whole, "3") := by
    decide +kernel
  have canonical : Canonical "hunter2" := by
    have ⟨wordless, numberless⟩ : ¬ SettingValue.IsFlagWord "hunter2" ∧
        (Floating.read? "hunter2".toList).isSome = false := by
      unfold SettingValue.IsFlagWord
      decide +kernel
    refine .text ⟨wordless, fun writes => ?_⟩
    rw [Floating.read?_isSome_iff.2 writes] at numberless
    cases numberless
  obtain ⟨c, found⟩ := Option.isSome_iff_exists.1 made
  have loaded := toOption_eq_some.1 found
  obtain ⟨texts, integers⟩ := load_taken loaded
  obtain ⟨-, -, -, -, taken⟩ :=
    texts ("servicebus_key_value", c.credentials.keyValue) (by simp [Configuration.texts]) _ _ key
  obtain ⟨-, -, -, -, -, counted⟩ :=
    integers ⟨"sink_retries", c.retries, Environment.maxShort⟩ (by simp [Configuration.integers]) _ _ retries
  have three : (c.retries : Int) = 3 := counted 3 (Floating.readInteger?_iff.1 (by decide)) (by decide)
  exact ⟨c, loaded, taken canonical, by omega⟩

/-- Zeros in front of a key that is a number are lost, and a fraction of repetitions is rounded. -/
theorem load_rewrites :
    ∃ c, load (Sample.environment "007" "2.5") = .ok c ∧
      (Sample.environment "007" "2.5").last? "servicebus_key_value" = some (.whole, "007") ∧
      c.credentials.keyValue = some "7" ∧ c.retries = 3 := by
  have ⟨told, key⟩ : (load (Sample.environment "007" "2.5")).toOption.map
        (fun c => (c.credentials.keyValue, c.retries)) = some (some "7", 3) ∧
      (Sample.environment "007" "2.5").last? "servicebus_key_value" = some (.whole, "007") := by
    decide +kernel
  obtain ⟨c, found, same⟩ := Option.map_eq_some_iff.1 told
  obtain ⟨value, retries⟩ := Prod.mk.inj same
  exact ⟨c, toOption_eq_some.1 found, key, value, retries⟩

end Configuration

end BusRelay
