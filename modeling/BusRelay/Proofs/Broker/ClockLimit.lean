import BusRelay.Proofs.Broker.Issued
import BusRelay.Proofs.Broker.Renewal
/-!
# Lifetimes and the clock

A lifetime that is decoded has 64 bits, so it is a duration, and taking the margin off it leaves one
(`lifetime_le_of_issued`). The time of renewal is not so bounded: it is the time of arrival plus the lifetime, and
the clock ends before the greatest of these sums. A demand is met with a header or with a fault except in this case
(`Grants`, `authorize_grants`), which ends the program (`authorize_within_clock`).
-/

namespace BusRelay

namespace Directory

open Http (Peer)

/-! ## Lifetimes -/

/-- So many seconds are a duration. -/
theorem ofSeconds_le_max {seconds : Nat} (word : seconds ≤ Json.maxNatural) :
    (Duration.ofSeconds seconds).nanoseconds ≤ Duration.max.nanoseconds := by
  have limit : Json.maxNatural = 18446744073709551615 := rfl
  have longest : Duration.max.nanoseconds = 18446744073709551616000000000 - 1 := rfl
  show seconds * 1000000000 ≤ _
  omega

/-! ## The time of renewal -/

/-- The clock cannot show the time of renewal if the lifetime, less the margin, goes beyond its limit. -/
theorem refreshAt?_eq_none_iff {arrived : Duration} {lifetime : Nat} :
    refreshAt? arrived lifetime = none ↔ clockLimit ≤ arrived.seconds + (lifetime - margin) := by
  have whole : (⟨arrived.nanoseconds + (Duration.ofSeconds (lifetime - margin)).nanoseconds⟩ : Duration).seconds =
      arrived.seconds + (lifetime - margin) := by
    show (arrived.nanoseconds + (lifetime - margin) * Nat.pow 10 9) / Nat.pow 10 9 = _
    exact Nat.add_mul_div_right _ _ (by decide)
  rw [refreshAt?, whole, ite_eq_right_iff, ← Nat.not_lt]
  simp only [reduceCtorEq, imp_false]

/-- How a demand is met, by what is kept and what the directory answers. -/
inductive Grants (answer : Except BrokerFault Issued) (kept : Option Kept) (now arrived : Duration) :
    Grant → Prop where
  | again {k : Kept} (is : kept = some k) (early : now.nanoseconds < k.refreshAt.nanoseconds) :
      Grants answer kept now arrived (.header (bearer k.token))
  | new {token : Issued} (spent : IsSpent kept now) (came : answer = .ok token)
      (shown : arrived.seconds + (token.lifetime - margin) < clockLimit) :
      Grants answer kept now arrived (.header (bearer token.token))
  | refused {fault : BrokerFault} (spent : IsSpent kept now) (failed : answer = .error fault) :
      Grants answer kept now arrived (.fault fault)
  | beyond {token : Issued} (spent : IsSpent kept now) (came : answer = .ok token)
      (unshown : clockLimit ≤ arrived.seconds + (token.lifetime - margin)) :
      Grants answer kept now arrived .beyondClock

/-- What comes of a token whose time the clock cannot show. -/
theorem outcome_beyond {σ : Type} {exchange : Http.Exchange σ} (kept : Option Kept)
    {renewal? : Nat → Option Duration} {token : Issued} (came : issued exchange.result = .ok token)
    (unshown : renewal? token.lifetime = none) : outcome exchange kept renewal? =
      ⟨.beyondClock, kept, exchange.sent, [acquiredRecord token], exchange.state⟩ := by
  rw [outcome, came]
  dsimp only
  rw [unshown]

section

variable {σ : Type} (d : Directory) (peer : Peer σ) (now arrived : Duration) (kept : Option Kept) (state : σ)

/-- What comes of asking is a header or a fault, unless the clock does not go far enough. -/
theorem outcome_grants (exchange : Http.Exchange σ) (spent : IsSpent kept now) :
    Grants (issued exchange.result) kept now arrived (outcome exchange kept (refreshAt? arrived)).grant := by
  cases answer : issued exchange.result with
  | error fault =>
    rw [outcome_error kept answer]
    exact .refused spent rfl
  | ok token =>
    cases renewal : refreshAt? arrived token.lifetime with
    | none =>
      rw [outcome_beyond kept answer renewal]
      exact .beyond spent rfl (refreshAt?_eq_none_iff.1 renewal)
    | some refreshAt =>
      rw [outcome_ok kept answer renewal]
      refine .new spent rfl (Nat.not_le.1 fun unshown => ?_)
      rw [refreshAt?_eq_none_iff.2 unshown] at renewal
      cases renewal

theorem authorize_grants : Grants (issued (Http.carryOut? peer state d.request?).result) kept now arrived
    (d.authorize peer now arrived kept state).grant := by
  by_cases spent : IsSpent kept now
  · rw [authorize_spent spent]
    exact outcome_grants now arrived kept _ spent
  · unfold IsSpent at spent
    simp only [Classical.not_forall, Nat.not_le] at spent
    obtain ⟨k, rfl, early⟩ := spent
    rw [authorize_early early]
    exact .again rfl early

/-- **When the clock ends.** Whatever is kept and whatever the directory answers, a lifetime that comes of it is a
duration, and so is what is left of it. A demand is met with the token that is kept, while this may be handed out;
else with what the directory answers, a token or a fault; and it ends the program if and only if the directory is
asked and gives a token whose lifetime, less the margin, reaches the limit of the clock. -/
theorem authorize_within_clock :
    let grant := (d.authorize peer now arrived kept state).grant
    let answer := issued (Http.carryOut? peer state d.request?).result
    (∀ token, answer = .ok token →
      (Duration.ofSeconds token.lifetime).nanoseconds ≤ Duration.max.nanoseconds ∧
      (Duration.ofSeconds (token.lifetime - margin)).nanoseconds ≤ Duration.max.nanoseconds) ∧
    Grants answer kept now arrived grant ∧
    (grant = .beyondClock ↔ IsSpent kept now ∧
      ∃ token, answer = .ok token ∧ clockLimit ≤ arrived.seconds + (token.lifetime - margin)) := by
  have grants := d.authorize_grants peer now arrived kept state
  dsimp only
  refine ⟨fun token came => ?_, grants, ?_⟩
  · have word := lifetime_le_of_issued came
    exact ⟨ofSeconds_le_max word, ofSeconds_le_max (Nat.le_trans (Nat.sub_le _ _) word)⟩
  · generalize (d.authorize peer now arrived kept state).grant = grant at grants
    generalize issued (Http.carryOut? peer state d.request?).result = answer at grants
    constructor
    · rintro rfl
      cases grants with
      | beyond spent came unshown => exact ⟨spent, _, came, unshown⟩
    · rintro ⟨spent, token, came, unshown⟩
      cases grants with
      | again is early => exact absurd early (Nat.not_lt.2 (spent _ is))
      | new _ came' shown =>
        cases came.symm.trans came'
        exact absurd shown (Nat.not_lt.2 unshown)
      | refused _ failed => cases came.symm.trans failed
      | beyond => rfl

end

namespace Sample

def directory : Directory := ⟨"http://login.example.com", ⟨"tenant", "client", "secret"⟩⟩

/-- A directory that gives a token for so many seconds. -/
def lasting (seconds : String) : Peer Unit := fun _ _ =>
  (.response { status := 200,
               body := Utf8.bytes ("\x7b\"access_token\":\"tok\",\"expires_in\":" ++ seconds ++ "\x7d") }, ())

/-- What it answers. -/
def answer (seconds : String) : Except BrokerFault Issued :=
  issued (Http.carryOut? (lasting seconds) () directory.request?).result

/-- What a first demand is met with when the clock starts. -/
def grant (seconds : String) : Grant := (directory.authorize (lasting seconds) ⟨0⟩ ⟨0⟩ none ()).grant

end Sample

/-- The longest lifetime with which a token that comes at once is handed out. -/
theorem authorize_within_clock_longest :
    Sample.answer "9223372036854776107" = .ok ⟨"tok", 9223372036854776107⟩ ∧
    (Duration.ofSeconds 9223372036854776107).nanoseconds ≤ Duration.max.nanoseconds ∧
    Sample.grant "9223372036854776107" = .header "Bearer tok" := by
  have came : Sample.answer "9223372036854776107" = .ok ⟨"tok", 9223372036854776107⟩ := by decide +kernel
  obtain ⟨fits, grants, -⟩ :=
    authorize_within_clock Sample.directory (Sample.lasting "9223372036854776107") ⟨0⟩ ⟨0⟩ none ()
  change Grants (Sample.answer _) none ⟨0⟩ ⟨0⟩ (Sample.grant _) at grants
  refine ⟨came, (fits _ came).1, ?_⟩
  rw [came] at grants
  generalize Sample.grant "9223372036854776107" = grant at grants
  cases grants with
  | again is => cases is
  | new _ is =>
    cases is
    rfl
  | refused _ is => cases is
  | beyond _ is unshown =>
    cases is
    exact absurd unshown (by decide)

/-- The greatest lifetime that can be decoded ends the program. -/
theorem authorize_beyond_clock :
    Sample.answer "18446744073709551615" = .ok ⟨"tok", 18446744073709551615⟩ ∧
    Sample.grant "18446744073709551615" = .beyondClock := by
  decide +kernel

end Directory

end BusRelay
