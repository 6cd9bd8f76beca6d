import BusRelay.Broker.Binding
import BusRelay.Proofs.Except
/-!
# Which way in is taken

A shared key or signature goes before a principal of the directory, and a key before any connection string
(`Uses`). The first way that comes to a binding is taken; if neither does, both reasons are told in this order
(`bind_ok_iff`, `bind_error_iff`). So what stands behind the way that is taken has no say in it, be it a
connection string besides a key or a principal besides a binding by a key (`bind_precedence`). A text that is
missing is the same as an empty one.
-/

namespace BusRelay

namespace Credentials

/-! ## Texts that may be empty -/

theorem filled_eq_some {s : Option String} {t : String} : filled s = some t ↔ s = some t ∧ t ≠ "" := by
  unfold filled
  rw [Option.filter_eq_some_iff, decide_eq_true_eq]

theorem filled_eq_none {s : Option String} : filled s = none ↔ s.getD "" = "" := by
  cases s with
  | none => exact ⟨fun _ => rfl, fun _ => rfl⟩
  | some t => simp [filled]

theorem filled_getD (s : Option String) : (filled s).getD "" = s.getD "" := by
  cases given : filled s with
  | none => exact (filled_eq_none.1 given).symm
  | some t =>
    obtain ⟨rfl, -⟩ := filled_eq_some.1 given
    rfl

/-- A text that is missing is the same as an empty one. -/
theorem filled_congr {s t : Option String} (same : s.getD "" = t.getD "") : filled s = filled t := by
  cases given : filled t with
  | none => exact filled_eq_none.2 (same.trans (filled_eq_none.1 given))
  | some text =>
    obtain ⟨rfl, more⟩ := filled_eq_some.1 given
    cases s with
    | none => exact absurd same.symm more
    | some other => exact filled_eq_some.2 ⟨congrArg some same, more⟩

/-- A key is configured, or one half of it. -/
def Keyed (c : Credentials) : Prop := c.keyName.getD "" ≠ "" ∨ c.keyValue.getD "" ≠ ""

theorem keyed_iff {c : Credentials} :
    ((filled c.keyName).isSome = true ∨ (filled c.keyValue).isSome = true) ↔ c.Keyed := by
  rw [Option.isSome_iff_ne_none, Option.isSome_iff_ne_none]
  exact or_congr (not_congr filled_eq_none) (not_congr filled_eq_none)

/-- The same credentials, but for texts that are missing in one and empty in the other. -/
structure Alike (c d : Credentials) : Prop where
  keyName : c.keyName.getD "" = d.keyName.getD ""
  keyValue : c.keyValue.getD "" = d.keyValue.getD ""
  connectionString : c.connectionString.getD "" = d.connectionString.getD ""
  tenant : c.tenant.getD "" = d.tenant.getD ""
  client : c.client.getD "" = d.client.getD ""
  secret : c.secret.getD "" = d.secret.getD ""

end Credentials

namespace Binding

open Credentials (Keyed Alike filled)

variable {e : Entity} {c : Credentials} {b : Binding}

/-! ## By a shared key or signature -/

/-- The connection string to be used: that of the key, or else the one that is configured. -/
inductive Uses (e : Entity) (c : Credentials) : String → Prop where
  | key (keyed : c.Keyed) :
      Uses e c (ConnectionString.compose e.space e.path.text (c.keyName.getD "") (c.keyValue.getD ""))
  | string {text : String} (keyless : ¬ c.Keyed) (configured : c.connectionString = some text)
      (more : text ≠ "") : Uses e c text

/-- What the connection string to be used gives. -/
inductive ByKey (e : Entity) (c : Credentials) : Binding → Prop where
  | mk {text : String} {s : ConnectionString} (uses : Uses e c text)
      (read : ConnectionString.parse text = .ok s) : ByKey e c ⟨.sharedAccess, s.endpoint, s.tokens⟩

/-- Why there is no binding by a shared key or signature. -/
inductive NoKey (e : Entity) (c : Credentials) : String → Prop where
  | nothing (unused : ∀ text, ¬ Uses e c text) :
      NoKey e c "no connection string or shared access key configured"
  | refused {text : String} {fault : ConnectionFault} (uses : Uses e c text)
      (refused : ConnectionString.parse text = .error fault) : NoKey e c fault.message

theorem connectionText?_keyed (e : Entity) (keyed : c.Keyed) : connectionText? e c =
    some (ConnectionString.compose e.space e.path.text (c.keyName.getD "") (c.keyValue.getD "")) := by
  unfold connectionText?
  dsimp only
  rw [if_pos (Credentials.keyed_iff.2 keyed), Credentials.filled_getD, Credentials.filled_getD]

theorem connectionText?_keyless (e : Entity) (keyless : ¬ c.Keyed) :
    connectionText? e c = filled c.connectionString := by
  unfold connectionText?
  dsimp only
  rw [if_neg (not_congr Credentials.keyed_iff |>.2 keyless)]

theorem connectionText?_eq_some {text : String} : connectionText? e c = some text ↔ Uses e c text := by
  constructor
  · intro found
    by_cases keyed : c.Keyed
    · rw [connectionText?_keyed e keyed] at found
      cases found
      exact .key keyed
    · rw [connectionText?_keyless e keyed] at found
      obtain ⟨configured, more⟩ := Credentials.filled_eq_some.1 found
      exact .string keyed configured more
  · rintro (keyed | ⟨keyless, configured, more⟩)
    · exact connectionText?_keyed e keyed
    · rw [connectionText?_keyless e keyless]
      exact Credentials.filled_eq_some.2 ⟨configured, more⟩

theorem connectionText?_eq_none : connectionText? e c = none ↔ ∀ text, ¬ Uses e c text := by
  rw [Option.eq_none_iff_forall_ne_some]
  exact forall_congr' fun text => not_congr connectionText?_eq_some

theorem bySharedAccess_ok_iff : bySharedAccess e c = .ok b ↔ ByKey e c b := by
  unfold bySharedAccess
  constructor
  · intro ok
    split at ok
    · cases ok
    · rename_i text found
      split at ok
      · rename_i s read
        cases ok
        exact .mk (connectionText?_eq_some.1 found) read
      · cases ok
  · rintro ⟨uses, read⟩
    simp only [connectionText?_eq_some.2 uses, read]

theorem bySharedAccess_error_iff {why : String} : bySharedAccess e c = .error why ↔ NoKey e c why := by
  unfold bySharedAccess
  constructor
  · intro failed
    split at failed
    · rename_i nothing
      cases failed
      exact .nothing (connectionText?_eq_none.1 nothing)
    · rename_i text found
      split at failed
      · cases failed
      · rename_i fault refused
        cases failed
        exact .refused (connectionText?_eq_some.1 found) refused
  · rintro (unused | ⟨uses, refused⟩)
    · simp only [connectionText?_eq_none.2 unused]
    · simp only [connectionText?_eq_some.2 uses, refused]

/-! ## By a principal -/

/-- The root of the namespace of an entity. -/
def rootText (e : Entity) : String := s!"https://{e.space}.{ConnectionString.domain}/"

/-- What a principal gives that is known in full. -/
inductive ByDirectory (e : Entity) (c : Credentials) : Binding → Prop where
  | mk {tenant client secret : String} {endpoint : Url} (tenant_given : filled c.tenant = some tenant)
      (client_given : filled c.client = some client) (secret_given : filled c.secret = some secret)
      (read : Url.parse (rootText e) = .ok endpoint) :
      ByDirectory e c ⟨.principal, endpoint, .directory ⟨tenant, client, secret⟩⟩

/-- Why there is no binding by a principal: the first thing that is missing. -/
inductive NoDirectory (e : Entity) (c : Credentials) : String → Prop where
  | tenant (missing : c.tenant.getD "" = "") : NoDirectory e c "tenant ID not set"
  | client (tenant : c.tenant.getD "" ≠ "") (missing : c.client.getD "" = "") :
      NoDirectory e c "client ID not set"
  | secret (tenant : c.tenant.getD "" ≠ "") (client : c.client.getD "" ≠ "")
      (missing : c.secret.getD "" = "") : NoDirectory e c "client secret not set"
  | space {fault : UrlFault} (tenant : c.tenant.getD "" ≠ "") (client : c.client.getD "" ≠ "")
      (secret : c.secret.getD "" ≠ "") (refused : Url.parse (rootText e) = .error fault) :
      NoDirectory e c ("invalid namespace endpoint: " ++ fault.message)

theorem needed_missing (what : String) {s : Option String} (missing : s.getD "" = "") :
    needed what s = .error (what ++ " not set") := by
  unfold needed
  rw [Credentials.filled_eq_none.2 missing]

theorem needed_given (what : String) {s : Option String} {text : String} (given : filled s = some text) :
    needed what s = .ok text := by
  unfold needed
  rw [given]

theorem exists_filled {s : Option String} (more : s.getD "" ≠ "") : ∃ text, filled s = some text :=
  Option.ne_none_iff_exists'.1 fun nothing => more (Credentials.filled_eq_none.1 nothing)

/-- With a principal that is known in full, the binding depends on the namespace alone. -/
theorem byPrincipal_given {tenant client secret : String} (tenant_given : filled c.tenant = some tenant)
    (client_given : filled c.client = some client) (secret_given : filled c.secret = some secret) :
    byPrincipal e c = match Url.parse (rootText e) with
      | .ok endpoint => .ok ⟨.principal, endpoint, .directory ⟨tenant, client, secret⟩⟩
      | .error fault => .error ("invalid namespace endpoint: " ++ fault.message) := by
  unfold byPrincipal rootText
  rw [needed_given _ tenant_given, needed_given _ client_given, needed_given _ secret_given]
  cases Url.parse s!"https://{e.space}.{ConnectionString.domain}/" <;> rfl

/-- What is missing first is told. -/
theorem byPrincipal_refused {why : String} (refused : NoDirectory e c why) : byPrincipal e c = .error why := by
  cases refused with
  | tenant missing =>
    rw [byPrincipal, needed_missing _ missing]
    rfl
  | client tenant missing =>
    obtain ⟨tenant, given⟩ := exists_filled tenant
    rw [byPrincipal, needed_given _ given, needed_missing _ missing]
    rfl
  | secret tenant client missing =>
    obtain ⟨tenant, tenant_given⟩ := exists_filled tenant
    obtain ⟨client, client_given⟩ := exists_filled client
    rw [byPrincipal, needed_given _ tenant_given, needed_given _ client_given, needed_missing _ missing]
    rfl
  | space tenant client secret refused =>
    obtain ⟨tenant, tenant_given⟩ := exists_filled tenant
    obtain ⟨client, client_given⟩ := exists_filled client
    obtain ⟨secret, secret_given⟩ := exists_filled secret
    rw [byPrincipal_given tenant_given client_given secret_given, refused]

theorem byPrincipal_bound (bound : ByDirectory e c b) : byPrincipal e c = .ok b := by
  obtain ⟨tenant, client, secret, read⟩ := bound
  rw [byPrincipal_given tenant client secret, read]

/-- A principal comes to a binding, or to a reason why there is none. -/
theorem directory_cases (e : Entity) (c : Credentials) :
    (∃ b, ByDirectory e c b) ∨ ∃ why, NoDirectory e c why := by
  by_cases tenant : c.tenant.getD "" = ""
  · exact .inr ⟨_, .tenant tenant⟩
  by_cases client : c.client.getD "" = ""
  · exact .inr ⟨_, .client tenant client⟩
  by_cases secret : c.secret.getD "" = ""
  · exact .inr ⟨_, .secret tenant client secret⟩
  cases read : Url.parse (rootText e) with
  | error fault => exact .inr ⟨_, .space tenant client secret read⟩
  | ok endpoint =>
    obtain ⟨_, tenant_given⟩ := exists_filled tenant
    obtain ⟨_, client_given⟩ := exists_filled client
    obtain ⟨_, secret_given⟩ := exists_filled secret
    exact .inl ⟨_, .mk tenant_given client_given secret_given read⟩

theorem byPrincipal_ok_iff : byPrincipal e c = .ok b ↔ ByDirectory e c b := by
  refine ⟨fun ok => ?_, byPrincipal_bound⟩
  rcases directory_cases e c with ⟨other, bound⟩ | ⟨why, refused⟩
  · cases (byPrincipal_bound bound).symm.trans ok
    exact bound
  · cases (byPrincipal_refused refused).symm.trans ok

theorem byPrincipal_error_iff {why : String} : byPrincipal e c = .error why ↔ NoDirectory e c why := by
  refine ⟨fun failed => ?_, byPrincipal_refused⟩
  rcases directory_cases e c with ⟨b, bound⟩ | ⟨other, refused⟩
  · cases (byPrincipal_bound bound).symm.trans failed
  · cases (byPrincipal_refused refused).symm.trans failed
    exact refused

/-! ## The first binding -/

/-- The first way is taken if it comes to a binding, and else the second. -/
theorem bind_eq (e : Entity) (c : Credentials) : bind e c = match bySharedAccess e c, byPrincipal e c with
    | .ok b, _ => .ok b
    | .error _, .ok b => .ok b
    | .error why, .error because => .error [⟨.sharedAccess, why⟩, ⟨.principal, because⟩] := by
  unfold bind ways
  cases bySharedAccess e c with
  | ok b => rfl
  | error why => cases byPrincipal e c <;> rfl

theorem bind_byKey (bound : ByKey e c b) : bind e c = .ok b := by
  rw [bind_eq, bySharedAccess_ok_iff.2 bound]

theorem bind_noKey {why : String} (refused : NoKey e c why) : bind e c = match byPrincipal e c with
    | .ok b => .ok b
    | .error because => .error [⟨.sharedAccess, why⟩, ⟨.principal, because⟩] := by
  rw [bind_eq, bySharedAccess_error_iff.2 refused]
  cases byPrincipal e c <;> rfl

/-- A shared key or signature comes to a binding, or to a reason why there is none. -/
theorem key_cases (e : Entity) (c : Credentials) : (∃ b, ByKey e c b) ∨ ∃ why, NoKey e c why := by
  cases made : bySharedAccess e c with
  | ok b => exact .inl ⟨b, bySharedAccess_ok_iff.1 made⟩
  | error why => exact .inr ⟨why, bySharedAccess_error_iff.1 made⟩

theorem NoKey.unbound {why : String} (refused : NoKey e c why) : ¬ ByKey e c b := fun bound => by
  cases (bySharedAccess_ok_iff.2 bound).symm.trans (bySharedAccess_error_iff.2 refused)

theorem bind_ok_iff : bind e c = .ok b ↔ ByKey e c b ∨ (∀ other, ¬ ByKey e c other) ∧ ByDirectory e c b := by
  constructor
  · intro ok
    rcases key_cases e c with ⟨other, bound⟩ | ⟨why, refused⟩
    · cases (bind_byKey bound).symm.trans ok
      exact .inl bound
    · rw [bind_noKey refused] at ok
      split at ok
      · rename_i other made
        cases ok
        exact .inr ⟨fun _ => refused.unbound, byPrincipal_ok_iff.1 made⟩
      · cases ok
  · rintro (bound | ⟨unbound, bound⟩)
    · exact bind_byKey bound
    · rcases key_cases e c with ⟨other, opened⟩ | ⟨why, refused⟩
      · exact absurd opened (unbound other)
      · rw [bind_noKey refused, byPrincipal_bound bound]

theorem bind_error_iff {attempts : List Attempt} : bind e c = .error attempts ↔
    ∃ why because, NoKey e c why ∧ NoDirectory e c because ∧
      attempts = [⟨.sharedAccess, why⟩, ⟨.principal, because⟩] := by
  constructor
  · intro failed
    rcases key_cases e c with ⟨b, bound⟩ | ⟨why, refused⟩
    · cases (bind_byKey bound).symm.trans failed
    · rw [bind_noKey refused] at failed
      split at failed
      · cases failed
      · rename_i because unavailable
        cases failed
        exact ⟨why, because, refused, byPrincipal_error_iff.1 unavailable, rfl⟩
  · rintro ⟨why, because, refused, unavailable, rfl⟩
    rw [bind_noKey refused, byPrincipal_refused unavailable]

/-! ## What has no say -/

theorem ByKey.method (bound : ByKey e c b) : b.method = .sharedAccess := by
  cases bound
  rfl

theorem ByDirectory.method (bound : ByDirectory e c b) : b.method = .principal := by
  cases bound
  rfl

/-- A binding depends on the texts that are filled, and on nothing else. -/
theorem bind_congr {d : Credentials} (text : connectionText? e c = connectionText? e d)
    (tenant : filled c.tenant = filled d.tenant) (client : filled c.client = filled d.client)
    (secret : filled c.secret = filled d.secret) : bind e c = bind e d := by
  have key : bySharedAccess e c = bySharedAccess e d := by
    unfold bySharedAccess
    rw [text]
  have directory : byPrincipal e c = byPrincipal e d := by
    unfold byPrincipal needed
    rw [tenant, client, secret]
  rw [bind_eq, bind_eq, key, directory]

/-- **Which way in is taken.** A binding by a shared key or signature is made if the connection string to be
used gives one; else a binding by a principal, if tenant, client and secret are there and the namespace has a
URL; else both reasons are told, the one for the key first. It makes no difference whether a text is missing
or empty; where a key or a half of it is configured, whatever connection string is beside it; and where there
is a binding by a key, whatever principal is beside it. -/
theorem bind_precedence (e : Entity) (c : Credentials) :
    (∀ b, b.method = .sharedAccess → (bind e c = .ok b ↔ ByKey e c b)) ∧
    (∀ b, b.method = .principal → (bind e c = .ok b ↔ (∀ other, ¬ ByKey e c other) ∧ ByDirectory e c b)) ∧
    (∀ attempts, bind e c = .error attempts ↔ ∃ why because, NoKey e c why ∧ NoDirectory e c because ∧
      attempts = [⟨.sharedAccess, why⟩, ⟨.principal, because⟩]) ∧
    (∀ d, c.Alike d → bind e c = bind e d) ∧
    (c.Keyed → ∀ text, bind e { c with connectionString := text } = bind e c) ∧
    (∀ b, ByKey e c b → ∀ tenant client secret, bind e { c with tenant, client, secret } = .ok b) := by
  refine ⟨fun b method => ?_, fun b method => ?_, fun _ => bind_error_iff, fun d alike => ?_,
    fun keyed text => ?_, fun b bound tenant client secret => ?_⟩
  · rw [bind_ok_iff]
    refine or_iff_left fun other => ?_
    cases other.2.method.symm.trans method
  · rw [bind_ok_iff]
    refine or_iff_right fun bound => ?_
    cases bound.method.symm.trans method
  · refine bind_congr ?_ (Credentials.filled_congr alike.tenant) (Credentials.filled_congr alike.client)
      (Credentials.filled_congr alike.secret)
    unfold connectionText?
    rw [Credentials.filled_congr alike.keyName, Credentials.filled_congr alike.keyValue,
      Credentials.filled_congr alike.connectionString]
  · refine bind_congr ?_ rfl rfl rfl
    rw [connectionText?_keyed e keyed]
    exact connectionText?_keyed (c := { c with connectionString := text }) e keyed
  · have same : bySharedAccess e { c with tenant, client, secret } = bySharedAccess e c := rfl
    apply bind_byKey
    rw [← bySharedAccess_ok_iff, same]
    exact bySharedAccess_ok_iff.2 bound

namespace Sample

theorem path_filled : "q1" ≠ "" := by decide

/-- The queue `q1` of the namespace `ns1`. -/
def entity : Entity where
  raw := "/subscriptions/s/resourceGroups/rg/providers/Microsoft.ServiceBus/namespaces/ns1/queues/q1"
  resource := ⟨"s", "rg", "Microsoft.ServiceBus", "ns1", "queues", "q1", none⟩
  kind := .queue "q1"
  path := ⟨"q1", path_filled⟩
  path_eq := rfl

/-- A key, a connection string that is none, and a principal of which half is missing. -/
def credentials : Credentials where
  keyName := some "Root"
  keyValue := some "abc"
  connectionString := some "garbage"
  tenant := some "t"

/-- A principal that is known in full, besides a connection string that is none. -/
def principal : Credentials where
  connectionString := some "garbage"
  tenant := some "t"
  client := some "c"
  secret := some "s"

end Sample

/-- A key is taken whatever is beside it; without one, a principal is taken after a connection string that
is none; and without either both reasons are told. -/
theorem bind_precedence_sample :
    Sample.credentials.Keyed ∧ Sample.credentials.Alike { Sample.credentials with client := some "" } ∧
      (∃ b, ByKey Sample.entity Sample.credentials b ∧ b.method = .sharedAccess ∧
        bind Sample.entity { Sample.credentials with connectionString := none } = .ok b ∧
        bind Sample.entity { Sample.credentials with client := some "" } = .ok b ∧
        bind Sample.entity { Sample.credentials with tenant := none, client := none, secret := none } = .ok b) ∧
      (∃ b, b.method = .principal ∧ bind Sample.entity Sample.principal = .ok b) ∧
      ∃ why because, bind Sample.entity { keyName := some "Root" } =
        .error [⟨.sharedAccess, why⟩, ⟨.principal, because⟩] := by
  have keyed : Sample.credentials.Keyed := .inl (by decide)
  have alike : Sample.credentials.Alike { Sample.credentials with client := some "" } :=
    ⟨rfl, rfl, rfl, rfl, rfl, rfl⟩
  have ⟨opened, unread, full, half⟩ :
      (bySharedAccess Sample.entity Sample.credentials).toOption.isSome = true ∧
      (bySharedAccess Sample.entity Sample.principal).toOption.isSome = false ∧
      (byPrincipal Sample.entity Sample.principal).toOption.isSome = true ∧
      (bind Sample.entity { keyName := some "Root" }).toOption.isSome = false := by
    decide +kernel
  obtain ⟨b, made⟩ := Option.isSome_iff_exists.1 opened
  have bound : ByKey Sample.entity Sample.credentials b := bySharedAccess_ok_iff.1 (toOption_eq_some.1 made)
  obtain ⟨first, -, -, same, beside, apart⟩ := bind_precedence Sample.entity Sample.credentials
  have taken : bind Sample.entity Sample.credentials = .ok b := (first b bound.method).2 bound
  refine ⟨keyed, alike, ⟨b, bound, bound.method, (beside keyed none).trans taken, (same _ alike).symm.trans taken,
    apart b bound none none none⟩, ?_, ?_⟩
  · obtain ⟨b, made⟩ := Option.isSome_iff_exists.1 full
    have bound : ByDirectory Sample.entity Sample.principal b := byPrincipal_ok_iff.1 (toOption_eq_some.1 made)
    refine ⟨b, bound.method, ((bind_precedence Sample.entity Sample.principal).2.1 b bound.method).2 ⟨?_, bound⟩⟩
    intro other opened
    rw [bySharedAccess_ok_iff.2 opened] at unread
    cases unread
  · cases made : bind Sample.entity { keyName := some "Root" } with
    | ok b =>
      rw [made] at half
      cases half
    | error attempts =>
      obtain ⟨why, because, -, -, rfl⟩ :=
        ((bind_precedence Sample.entity { keyName := some "Root" }).2.2.1 attempts).1 made
      exact ⟨why, because, rfl⟩

end Binding

end BusRelay
