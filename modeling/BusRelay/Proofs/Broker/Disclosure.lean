import BusRelay.Proofs.Broker.ConnectionString
import BusRelay.Proofs.Broker.Precedence
/-!
# What a failed binding shows of secrets

Of two credentials that differ in key and client secret only, and that both fail, the reasons are the same, and
so is what is recorded on the way: whether a secret is there counts, but not which one
(`bind_error_undisclosed`). A key is put into a connection string as it is, though. So what it brings behind a
semicolon is read as pieces of that string, and a refusal quotes them (`bind_error_discloses`).
-/

namespace BusRelay

namespace Credentials

/-- The same credentials but for the texts of the secrets, which are there in both or in neither. -/
structure SameButSecrets (c d : Credentials) : Prop where
  keyName : c.keyName = d.keyName
  keyValue : c.keyValue.getD "" = "" ↔ d.keyValue.getD "" = ""
  connectionString : c.connectionString = d.connectionString
  tenant : c.tenant = d.tenant
  client : c.client = d.client
  secret : c.secret.getD "" = "" ↔ d.secret.getD "" = ""

theorem SameButSecrets.keyed {c d : Credentials} (same : c.SameButSecrets d) : c.Keyed ↔ d.Keyed := by
  unfold Keyed
  rw [same.keyName]
  exact or_congr Iff.rfl (not_congr same.keyValue)

end Credentials

namespace Binding

open Credentials (SameButSecrets)

variable {e : Entity} {c d : Credentials}

/-! ## Reasons -/

/-- With a key, the reason is one against the connection string of the key. -/
theorem NoKey.of_keyed (keyed : c.Keyed) {why : String} (refused : NoKey e c why) :
    ∃ fault : ConnectionFault, ConnectionString.parse (ConnectionString.compose e.space e.path.text
      (c.keyName.getD "") (c.keyValue.getD "")) = .error fault ∧ why = fault.message := by
  rcases refused with unused | ⟨uses, refused⟩
  · exact absurd (Uses.key keyed) (unused _)
  · rcases uses with - | ⟨keyless, -, -⟩
    · exact ⟨_, refused, rfl⟩
    · exact absurd keyed keyless

/-- Which key it is has no part in the reason against it, but for what it brings behind a semicolon. -/
theorem noKey_same (same : c.SameButSecrets d)
    (behind : ConnectionString.behind (c.keyValue.getD "").toList =
      ConnectionString.behind (d.keyValue.getD "").toList) {why why' : String}
    (refused : NoKey e c why) (refused' : NoKey e d why') : why = why' := by
  by_cases keyed : c.Keyed
  · obtain ⟨fault, parsed, rfl⟩ := refused.of_keyed keyed
    obtain ⟨fault', parsed', rfl⟩ := refused'.of_keyed (same.keyed.1 keyed)
    rw [← same.keyName] at parsed'
    exact congrArg ConnectionFault.message (ConnectionString.refused_same _ _ _ behind parsed parsed')
  · have text : connectionText? e c = connectionText? e d := by
      rw [connectionText?_keyless e keyed, connectionText?_keyless e (not_congr same.keyed |>.1 keyed),
        same.connectionString]
    have way : bySharedAccess e c = bySharedAccess e d := by
      unfold bySharedAccess
      rw [text]
    have left := bySharedAccess_error_iff.2 refused
    have right := bySharedAccess_error_iff.2 refused'
    exact Except.error.inj (left.symm.trans (way.trans right))

/-- Which client secret it is has no part in the reason against a principal. -/
theorem NoDirectory.of_same (same : c.SameButSecrets d) {why : String} (refused : NoDirectory e c why) :
    NoDirectory e d why := by
  have tenant_same : c.tenant.getD "" = d.tenant.getD "" := by rw [same.tenant]
  have client_same : c.client.getD "" = d.client.getD "" := by rw [same.client]
  cases refused with
  | tenant missing => exact .tenant (tenant_same ▸ missing)
  | client tenant missing => exact .client (tenant_same ▸ tenant) (client_same ▸ missing)
  | secret tenant client missing =>
    exact .secret (tenant_same ▸ tenant) (client_same ▸ client) (same.secret.1 missing)
  | space tenant client secret refused =>
    exact .space (tenant_same ▸ tenant) (client_same ▸ client) (not_congr same.secret |>.1 secret) refused

/-! ## Records -/

/-- When all ways fail, the attempts are what is recorded. -/
theorem recordsOf_error {ways : List (AccessMethod × Except String Binding)} {attempts : List Attempt}
    (failed : firstOf ways = .error attempts) : recordsOf ways = attempts.map unavailableRecord := by
  induction ways generalizing attempts with
  | nil =>
    cases failed
    rfl
  | cons way ways ih =>
    obtain ⟨method, why | b⟩ := way
    · rw [firstOf] at failed
      split at failed
      · cases failed
      · rename_i later rest
        cases failed
        rw [recordsOf, ih rest, List.map_cons]
    · cases failed

/-- **A failed binding shows no secrets.** Let two credentials be the same but for the texts of key and client
secret, and let the two keys bring the same behind their first semicolon, such as nothing at all. If both fail
to bind, they fail for the same reasons and with the same message, and the same is recorded on the way. -/
theorem bind_error_undisclosed (same : c.SameButSecrets d)
    (behind : ConnectionString.behind (c.keyValue.getD "").toList =
      ConnectionString.behind (d.keyValue.getD "").toList) {attempts attempts' : List Attempt}
    (failed : bind e c = .error attempts) (failed' : bind e d = .error attempts') :
    attempts = attempts' ∧ attemptsMessage attempts = attemptsMessage attempts' ∧
      records e c = records e d := by
  have equal : attempts = attempts' := by
    obtain ⟨why, because, keyless, absent, rfl⟩ := bind_error_iff.1 failed
    obtain ⟨why', because', keyless', absent', rfl⟩ := bind_error_iff.1 failed'
    obtain rfl := noKey_same same behind keyless keyless'
    have left := byPrincipal_error_iff.2 (absent.of_same same)
    obtain rfl := Except.error.inj (left.symm.trans (byPrincipal_error_iff.2 absent'))
    rfl
  refine ⟨equal, congrArg attemptsMessage equal, ?_⟩
  unfold records
  rw [recordsOf_error failed, recordsOf_error failed', equal]

namespace Sample

/-- A key of the name `Root`, and half a principal. -/
def keyOf (key secret : String) : Credentials where
  keyName := some "Root"
  keyValue := some key
  client := some "c"
  secret := some secret

/-- The reasons why there is no binding. -/
def reasons (c : Credentials) : List String :=
  match bind entity c with
  | .ok _ => []
  | .error attempts => attempts.map Attempt.reason

theorem bind_reasons {c : Credentials} (refused : reasons c ≠ []) :
    ∃ attempts, bind entity c = .error attempts ∧ attempts.map Attempt.reason = reasons c := by
  unfold reasons at refused ⊢
  split at refused
  · exact absurd rfl refused
  · rename_i attempts failed
    rw [failed]
    exact ⟨attempts, rfl, rfl⟩

theorem keyOf_same {key key' secret secret' : String} (keys : key ≠ "" ∧ key' ≠ "")
    (secrets : secret ≠ "" ∧ secret' ≠ "") : (keyOf key secret).SameButSecrets (keyOf key' secret') where
  keyName := rfl
  keyValue := ⟨fun none => absurd none keys.1, fun none => absurd none keys.2⟩
  connectionString := rfl
  tenant := rfl
  client := rfl
  secret := ⟨fun none => absurd none secrets.1, fun none => absurd none secrets.2⟩

end Sample

/-- A blank key is missing, and a piece that it brings is quoted, whichever client secret is beside it. -/
theorem bind_error_undisclosed_quoted :
    (Sample.keyOf " ;one" "s").SameButSecrets (Sample.keyOf "abc;one" "t") ∧
      ∃ attempts, bind Sample.entity (Sample.keyOf " ;one" "s") = .error attempts ∧
        bind Sample.entity (Sample.keyOf "abc;one" "t") = .error attempts ∧
        records Sample.entity (Sample.keyOf " ;one" "s") = records Sample.entity (Sample.keyOf "abc;one" "t") := by
  have same : (Sample.keyOf " ;one" "s").SameButSecrets (Sample.keyOf "abc;one" "t") :=
    Sample.keyOf_same (by decide) (by decide)
  have behind : ConnectionString.behind " ;one".toList = ConnectionString.behind "abc;one".toList := by decide
  have ⟨one, other⟩ : Sample.reasons (Sample.keyOf " ;one" "s") ≠ [] ∧
      Sample.reasons (Sample.keyOf "abc;one" "t") ≠ [] := by
    decide +kernel
  obtain ⟨attempts, failed, -⟩ := Sample.bind_reasons one
  obtain ⟨attempts', failed', -⟩ := Sample.bind_reasons other
  obtain ⟨rfl, -, recorded⟩ := bind_error_undisclosed same behind failed failed'
  exact ⟨same, attempts, failed, failed', recorded⟩

/-- What a key brings behind a semicolon is quoted, so that the reasons tell one key from another. -/
theorem bind_error_discloses :
    (Sample.keyOf "abc;one" "s").SameButSecrets (Sample.keyOf " " "s") ∧
      ∃ attempts attempts', bind Sample.entity (Sample.keyOf "abc;one" "s") = .error attempts ∧
        bind Sample.entity (Sample.keyOf " " "s") = .error attempts' ∧ attempts ≠ attempts' ∧
        attempts.map Attempt.reason =
          ["malformed connection string segment \"one\"", "tenant ID not set"] := by
  have ⟨one, blank⟩ : Sample.reasons (Sample.keyOf "abc;one" "s") =
        ["malformed connection string segment \"one\"", "tenant ID not set"] ∧
      Sample.reasons (Sample.keyOf " " "s") =
        ["connection string has no SharedAccessKey", "tenant ID not set"] := by
    decide +kernel
  obtain ⟨attempts, failed, told⟩ := Sample.bind_reasons (c := Sample.keyOf "abc;one" "s") (by rw [one]; decide)
  obtain ⟨attempts', failed', told'⟩ := Sample.bind_reasons (c := Sample.keyOf " " "s") (by rw [blank]; decide)
  refine ⟨Sample.keyOf_same (by decide) (by decide), attempts, attempts', failed, failed', ?_, told.trans one⟩
  rintro rfl
  rw [told, one, blank] at told'
  revert told'
  decide

end Binding

end BusRelay
