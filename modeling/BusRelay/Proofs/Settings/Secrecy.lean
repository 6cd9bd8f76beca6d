import BusRelay.Proofs.Text.Quoted
import BusRelay.Settings.Configuration
/-!
# What diagnostics show of secrets

Of a secret a diagnostic shows at most whether it is set. All that is no secret it shows, so that two
diagnostics are the same just if the things are the same but for the texts of their secrets
(`diagnostics_hide_secrets`).
-/

namespace BusRelay

open Quoted (Legible quote recordOf recordOf_eq_iff)

/-! ## Texts -/

section

variable {α : Type}

theorem legible_text (part : α → String) : Legible fun a => quote (part a) := Quoted.legible_quote.comp part

theorem legible_optional (part : α → Option String) : Legible fun a => Quoted.optional ((part a).map quote) :=
  Quoted.legible_quote.optional.comp part

theorem legible_number (part : α → Nat) : Legible fun a => toString (part a) := Quoted.legible_number.comp part

theorem legible_redacted (part : α → Option String) : Legible fun a => Credentials.redacted (part a) :=
  (Quoted.legible_quote.comp fun _ => "<redacted>").optional.comp part

end

theorem text_eq_iff {s t : String} : quote s = quote t ↔ s = t := Quoted.quote_injective.eq_iff

/-- A text that is no secret shows, and so does that there is none. -/
theorem optional_eq_iff {s t : Option String} :
    Quoted.optional (s.map quote) = Quoted.optional (t.map quote) ↔ s = t := by
  rw [Quoted.optional_injective.eq_iff, (Option.map_injective Quoted.quote_injective).eq_iff]

theorem number_eq_iff {m n : Nat} : toString m = toString n ↔ m = n := Quoted.number_injective.eq_iff

theorem flag_eq_iff {a b : Bool} : toString a = toString b ↔ a = b := by
  cases a <;> cases b <;> decide

/-- Of a secret it shows whether it is set. -/
theorem redacted_eq_iff {s t : Option String} :
    Credentials.redacted s = Credentials.redacted t ↔ s.isSome = t.isSome := by
  rw [Credentials.redacted, Credentials.redacted, Quoted.optional_injective.eq_iff]
  cases s <;> cases t <;> simp

/-! ## Tokens and bindings -/

namespace SharedKey

/-- What shows of a key. -/
def shown : List (String × (SharedKey → String)) := [("key_name", fun k => quote k.name)]

theorem diagnostic_eq : diagnostic = recordOf "SasTokenProvider" shown false := rfl

theorem diagnostic_eq_iff {k l : SharedKey} : k.diagnostic = l.diagnostic ↔ k.name = l.name := by
  have legible : ∀ f ∈ shown, Legible f.2 := by
    simp only [shown, List.forall_mem_cons]
    exact ⟨legible_text name, by simp⟩
  rw [diagnostic_eq, recordOf_eq_iff legible]
  simp [shown, text_eq_iff]

end SharedKey

namespace Principal

/-- What shows of a principal. -/
def shown : List (String × (Principal → String)) :=
  [("tenant_id", fun p => quote p.tenant), ("client_id", fun p => quote p.client)]

theorem diagnostic_eq : diagnostic = recordOf "ServicePrincipal" shown false := rfl

theorem diagnostic_eq_iff {p q : Principal} :
    p.diagnostic = q.diagnostic ↔ p.tenant = q.tenant ∧ p.client = q.client := by
  have legible : ∀ f ∈ shown, Legible f.2 := by
    simp only [shown, List.forall_mem_cons]
    exact ⟨legible_text tenant, legible_text client, by simp⟩
  rw [diagnostic_eq, recordOf_eq_iff legible]
  simp [shown, text_eq_iff]

end Principal

namespace TokenSource

/-- The same source of tokens but for the token that it has, or the secret that it gets tokens with. -/
inductive LooksLike : TokenSource → TokenSource → Prop where
  | ready (token token' : String) : LooksLike (.ready token) (.ready token')
  | key {k l : SharedKey} (name : k.name = l.name) : LooksLike (.key k) (.key l)
  | directory {p q : Principal} (tenant : p.tenant = q.tenant) (client : p.client = q.client) :
    LooksLike (.directory p) (.directory q)

/-- What kind of source it is shows before anything else. -/
theorem kind_shows (k : SharedKey) (p : Principal) :
    readyTokenDiagnostic ≠ k.diagnostic ∧ readyTokenDiagnostic ≠ p.diagnostic ∧ k.diagnostic ≠ p.diagnostic := by
  simp only [readyTokenDiagnostic, SharedKey.diagnostic, Principal.diagnostic, Quoted.record, ne_eq,
    ← String.toList_inj, String.toList_append, List.append_assoc]
  simp

theorem diagnostic_eq_iff {a b : TokenSource} : a.diagnostic = b.diagnostic ↔ a.LooksLike b := by
  constructor
  · intro same
    cases a with
    | ready token =>
      cases b with
      | ready token' => exact .ready token token'
      | key k => exact absurd same (kind_shows k ⟨"", "", ""⟩).1
      | directory p => exact absurd same (kind_shows ⟨"", ""⟩ p).2.1
    | key k =>
      cases b with
      | ready token => exact absurd same.symm (kind_shows k ⟨"", "", ""⟩).1
      | key l => exact .key (SharedKey.diagnostic_eq_iff.1 same)
      | directory p => exact absurd same (kind_shows k p).2.2
    | directory p =>
      cases b with
      | ready token => exact absurd same.symm (kind_shows ⟨"", ""⟩ p).2.1
      | key k => exact absurd same.symm (kind_shows k p).2.2
      | directory q =>
        obtain ⟨tenant, client⟩ := Principal.diagnostic_eq_iff.1 same
        exact .directory tenant client
  · intro alike
    cases alike with
    | ready token token' => rfl
    | key name => exact SharedKey.diagnostic_eq_iff.2 name
    | directory tenant client => exact Principal.diagnostic_eq_iff.2 ⟨tenant, client⟩

end TokenSource

namespace ConnectionString

/-- What shows of a connection string. -/
def shown : List (String × (ConnectionString → String)) :=
  [("endpoint", fun c => quote c.endpoint.text),
    ("key_name", fun c => Quoted.optional (c.keyName.map quote)),
    ("entity_path", fun c => Quoted.optional (c.entityPath.map quote))]

theorem diagnostic_eq : diagnostic = recordOf "ConnectionString" shown false := rfl

theorem diagnostic_eq_iff {c d : ConnectionString} : c.diagnostic = d.diagnostic ↔
    c.endpoint.text = d.endpoint.text ∧ c.keyName = d.keyName ∧ c.entityPath = d.entityPath := by
  have legible : ∀ f ∈ shown, Legible f.2 := by
    simp only [shown, List.forall_mem_cons]
    have place := legible_text fun c : ConnectionString => c.endpoint.text
    exact ⟨place, legible_optional keyName, legible_optional entityPath, by simp⟩
  rw [diagnostic_eq, recordOf_eq_iff legible]
  simp [shown, text_eq_iff, optional_eq_iff]

end ConnectionString

namespace Binding

/-- What shows of a binding. -/
def shown : List (String × (Binding → String)) :=
  [("method", fun b => b.method.diagnostic), ("endpoint", fun b => quote b.endpoint.text)]

theorem diagnostic_eq : diagnostic = recordOf "Binding" shown false := rfl

theorem method_eq_iff {m n : AccessMethod} : m.diagnostic = n.diagnostic ↔ m = n := by
  cases m <;> cases n <;> decide

theorem legible_method : Legible AccessMethod.diagnostic := by
  refine .word fun m => ?_
  cases m <;> exact forall_mem_of_all (by decide)

theorem diagnostic_eq_iff {a b : Binding} :
    a.diagnostic = b.diagnostic ↔ a.method = b.method ∧ a.endpoint.text = b.endpoint.text := by
  have legible : ∀ f ∈ shown, Legible f.2 := by
    simp only [shown, List.forall_mem_cons]
    have place := legible_text fun b : Binding => b.endpoint.text
    exact ⟨legible_method.comp method, place, by simp⟩
  rw [diagnostic_eq, recordOf_eq_iff legible]
  simp [shown, text_eq_iff, method_eq_iff]

end Binding

/-! ## Credentials and configurations -/

namespace Credentials

/-- What shows of credentials. -/
def shown : List (String × (Credentials → String)) :=
  [("key_name", fun c => Quoted.optional (c.keyName.map quote)),
    ("key_value", fun c => redacted c.keyValue),
    ("connection_string", fun c => redacted c.connectionString),
    ("tenant_id", fun c => Quoted.optional (c.tenant.map quote)),
    ("client_id", fun c => Quoted.optional (c.client.map quote)),
    ("client_secret", fun c => redacted c.secret)]

theorem diagnostic_eq : diagnostic = recordOf "Credentials" shown true := rfl

theorem legible_shown : ∀ f ∈ shown, Legible f.2 := by
  simp only [shown, List.forall_mem_cons]
  exact ⟨legible_optional keyName, legible_redacted keyValue, legible_redacted connectionString,
    legible_optional tenant, legible_optional client, legible_redacted secret, by simp⟩

theorem legible_diagnostic : Legible diagnostic := by
  rw [diagnostic_eq]
  exact Quoted.legible_record legible_shown

/-- The same credentials but for the texts of the secrets, each of which is set in both or in neither. -/
structure LooksLike (c d : Credentials) : Prop where
  keyName : c.keyName = d.keyName
  keyValue : c.keyValue.isSome = d.keyValue.isSome
  connectionString : c.connectionString.isSome = d.connectionString.isSome
  tenant : c.tenant = d.tenant
  client : c.client = d.client
  secret : c.secret.isSome = d.secret.isSome

theorem diagnostic_eq_iff {c d : Credentials} : c.diagnostic = d.diagnostic ↔ c.LooksLike d := by
  rw [diagnostic_eq, recordOf_eq_iff legible_shown]
  simp only [shown, List.forall_mem_cons, optional_eq_iff, redacted_eq_iff]
  constructor
  · rintro ⟨keyName, keyValue, connectionString, tenant, client, secret, -⟩
    exact ⟨keyName, keyValue, connectionString, tenant, client, secret⟩
  · rintro ⟨keyName, keyValue, connectionString, tenant, client, secret⟩
    exact ⟨keyName, keyValue, connectionString, tenant, client, secret, by simp⟩

end Credentials

namespace Configuration

/-- What shows of a configuration. -/
def shown : List (String × (Configuration → String)) :=
  [("servicebus_entity_resource_id", fun c => quote c.entity),
    ("servicebus_message_processor", fun c => quote c.processor),
    ("credentials", fun c => c.credentials.diagnostic),
    ("k_sink", fun c => quote c.sink),
    ("servicebus_max_concurrent_calls", fun c => toString c.concurrency),
    ("servicebus_receive_timeout_secs", fun c => toString c.receiveTimeout),
    ("sink_retries", fun c => toString c.retries),
    ("sink_timeout_secs", fun c => toString c.sendTimeout),
    ("log_level", fun c => quote c.logLevel),
    ("otel_enabled", fun c => toString c.exportsSpans),
    ("otel_endpoint", fun c => quote c.collector),
    ("otel_service_name", fun c => quote c.service)]

theorem diagnostic_eq : diagnostic = recordOf "AppConfig" shown true := rfl

theorem legible_shown : ∀ f ∈ shown, Legible f.2 := by
  simp only [shown, List.forall_mem_cons]
  exact ⟨legible_text entity, legible_text processor, Credentials.legible_diagnostic.comp credentials,
    legible_text sink, legible_number concurrency, legible_number receiveTimeout, legible_number retries,
    legible_number sendTimeout, legible_text logLevel, Quoted.legible_flag.comp exportsSpans,
    legible_text collector, legible_text service, by simp⟩

/-- The same configuration but for the texts of the secrets among its credentials. -/
structure LooksLike (c d : Configuration) : Prop where
  credentials : c.credentials.LooksLike d.credentials
  others : c = { d with credentials := c.credentials }

theorem diagnostic_eq_iff {c d : Configuration} : c.diagnostic = d.diagnostic ↔ c.LooksLike d := by
  rw [diagnostic_eq, recordOf_eq_iff legible_shown]
  simp only [shown, List.forall_mem_cons, text_eq_iff, Credentials.diagnostic_eq_iff, number_eq_iff, flag_eq_iff]
  constructor
  · rintro ⟨entity, processor, credentials, sink, concurrency, receiveTimeout, retries, sendTimeout, logLevel,
      exportsSpans, collector, service, -⟩
    refine ⟨credentials, ?_⟩
    cases c
    cases d
    simp_all
  · rintro ⟨credentials, others⟩
    rw [others]
    exact ⟨rfl, rfl, credentials, rfl, rfl, rfl, rfl, rfl, rfl, rfl, rfl, rfl, by simp⟩

end Configuration

/-- **Diagnostics hide secrets.** Two configurations, or credentials, have the same diagnostic just if they are
the same but for the texts of secrets, each of which is set in both or in neither. A connection string shows
neither key nor signature, a binding not its tokens, a principal not its secret, a key its name only, and a
source of tokens no token that it was given. -/
theorem diagnostics_hide_secrets :
    (∀ c d : Configuration, c.diagnostic = d.diagnostic ↔ c.LooksLike d) ∧
    (∀ c d : Credentials, c.diagnostic = d.diagnostic ↔ c.LooksLike d) ∧
    (∀ c d : ConnectionString, c.diagnostic = d.diagnostic ↔
      c.endpoint.text = d.endpoint.text ∧ c.keyName = d.keyName ∧ c.entityPath = d.entityPath) ∧
    (∀ a b : Binding, a.diagnostic = b.diagnostic ↔ a.method = b.method ∧ a.endpoint.text = b.endpoint.text) ∧
    (∀ p q : Principal, p.diagnostic = q.diagnostic ↔ p.tenant = q.tenant ∧ p.client = q.client) ∧
    (∀ k l : SharedKey, k.diagnostic = l.diagnostic ↔ k.name = l.name) ∧
    (∀ a b : TokenSource, a.diagnostic = b.diagnostic ↔ a.LooksLike b) := by
  refine ⟨fun c d => ?_, fun c d => ?_, fun c d => ?_, fun a b => ?_, fun p q => ?_, fun k l => ?_, fun a b => ?_⟩
  · exact Configuration.diagnostic_eq_iff
  · exact Credentials.diagnostic_eq_iff
  · exact ConnectionString.diagnostic_eq_iff
  · exact Binding.diagnostic_eq_iff
  · exact Principal.diagnostic_eq_iff
  · exact SharedKey.diagnostic_eq_iff
  · exact TokenSource.diagnostic_eq_iff

end BusRelay
