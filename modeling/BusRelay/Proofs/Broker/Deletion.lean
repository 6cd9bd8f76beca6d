import BusRelay.Broker.Receiver
import BusRelay.Proofs.Http.Redirect
import Mathlib.Data.List.Basic
/-!
# What a completion tells

Without a token nothing is sent (`ask_refused`). With one, a completion succeeds if the last response is one
of success, and this answers the deletion of the lock if every redirect on the way was a repetition
(`completed_after_hops`). After any other redirect it answers a request that only asks, and the message is
counted as taken off the entity all the same (`completed_without_deletion`).
-/

namespace BusRelay

open Http (Peer Request Reply Hops)

namespace Receiver

/-! ## Asking -/

section

variable {α τ σ : Type} {tokens : Tokens τ} {uri : String} {state : τ × σ}

/-- Without a token nothing is sent, and the broker is left as it was. -/
theorem ask_refused (peer : Peer σ) (request : String → Option Request) (meaning : Meaning α)
    {fault : BrokerFault} (refused : (tokens state.1 uri).1 = .error fault) :
    (ask tokens peer uri request meaning state).result = .error fault ∧
      (ask tokens peer uri request meaning state).sent = [] ∧
      (ask tokens peer uri request meaning state).peer = state.2 := by
  have given : tokens state.1 uri = (.error fault, (tokens state.1 uri).2) := Prod.ext refused rfl
  unfold ask
  rw [given]
  exact ⟨rfl, rfl, rfl⟩

/-- With a token the request is carried out, and the meaning of its answer is the result. -/
theorem ask_granted (peer : Peer σ) (request : String → Option Request) (meaning : Meaning α)
    {token : String} (granted : (tokens state.1 uri).1 = .ok token) :
    (ask tokens peer uri request meaning state).result =
        (meaning (Http.carryOut? peer state.2 (request token)).result).1 ∧
      (ask tokens peer uri request meaning state).sent =
        (Http.carryOut? peer state.2 (request token)).sent := by
  have given : tokens state.1 uri = (.ok token, (tokens state.1 uri).2) := Prod.ext granted rfl
  unfold ask
  rw [given]
  exact ⟨rfl, rfl⟩

/-- A result is the meaning of the answer to a request that was carried out for a token. -/
theorem ask_ok {peer : Peer σ} {request : String → Option Request} {meaning : Meaning α} {a : α}
    (ok : (ask tokens peer uri request meaning state).result = .ok a) :
    ∃ token, (tokens state.1 uri).1 = .ok token ∧
      (meaning (Http.carryOut? peer state.2 (request token)).result).1 = .ok a ∧
      (ask tokens peer uri request meaning state).sent =
        (Http.carryOut? peer state.2 (request token)).sent := by
  cases given : (tokens state.1 uri).1 with
  | error fault =>
    rw [(ask_refused peer request meaning given).1] at ok
    cases ok
  | ok token =>
    obtain ⟨meant, sent⟩ := ask_granted peer request meaning given
    exact ⟨token, rfl, meant.symm.trans ok, sent⟩

end

/-- A response answers the last request that followed from the one that was carried out. -/
theorem answered_last {σ : Type} {peer : Peer σ} {state : σ} {request : Option Request}
    {response : Http.Response} (answered : (Http.carryOut? peer state request).result = .ok response) :
    ∃ made first hops last, request = some made ∧ Http.prepare made = .ok first ∧
      (Http.carryOut? peer state request).sent = hops ++ [(last, .response response)] ∧
      Hops first hops last ∧ hops.length ≤ Http.maxRedirects := by
  cases request with
  | none => cases answered
  | some made =>
    obtain ⟨first, hops, last, prepared, split, chain, bound⟩ := Http.carryOut_ok peer answered
    exact ⟨made, first, hops, last, rfl, prepared, split, chain, bound⟩

/-- A message is in hand if anything can be told of it. -/
theorem received_some {α : Type} {result : Except BrokerFault (Option Locked)} {part : Locked → α} {a : α}
    (told : result.toOption.map (Option.map part) = some (some a)) :
    ∃ l, result = .ok (some l) ∧ part l = a := by
  rcases result with fault | _ | l
  · cases told
  · cases told
  · exact ⟨l, rfl, Option.some.inj (Option.some.inj told)⟩

/-! ## Deleting a lock -/

/-- A lock counts as deleted if the last response is one of success. -/
theorem completed_ok {lock : String} {answer : Except Http.ClientFault Http.Response}
    (ok : (completed lock answer).1 = .ok ()) :
    ∃ response, answer = .ok response ∧ Http.isSuccess response.status = true := by
  cases answer with
  | error fault => cases ok
  | ok response =>
    refine ⟨response, rfl, ?_⟩
    cases success : Http.isSuccess response.status with
    | true => rfl
    | false =>
      have refused : (completed lock (.ok response)).1 =
          .error (statusFault response.status "completing message") := by
        simp [completed, success]
      rw [refused] at ok
      cases ok

section

variable {τ σ : Type}

/-- A lock that counts as deleted goes with a response to the last request that followed from its deletion. -/
theorem complete_ok {r : Receiver} {tokens : Tokens τ} {peer : Peer σ} {lock : String} {state : τ × σ}
    (ok : (r.complete tokens peer lock state).result = .ok ()) :
    ∃ token request first hops last response, (tokens state.1 r.entityUri).1 = .ok token ∧
      completeRequest? lock token = some request ∧ Http.prepare request = .ok first ∧
      (r.complete tokens peer lock state).sent = hops ++ [(last, .response response)] ∧
      Http.isSuccess response.status = true ∧ Hops first hops last ∧ hops.length ≤ Http.maxRedirects := by
  obtain ⟨token, granted, meant, sent⟩ := ask_ok ok
  obtain ⟨response, answered, success⟩ := completed_ok meant
  obtain ⟨request, first, hops, last, made, prepared, split, chain, bound⟩ := answered_last answered
  exact ⟨token, request, first, hops, last, response, granted, made, prepared, sent.trans split, success, chain,
    bound⟩

/-- **What a completion tells.** Without a token a completion fails with the reason for it, nothing is sent
and the broker is left as it was. If it succeeds, then the last of all requests that were sent got a response
of success, and it goes back to the deletion of the lock by at most ten redirects. If each of them repeats
the request, the last one deletes. But if any other redirect is among them, the last one only asks, and the
lock is still there. -/
theorem completed_after_hops (r : Receiver) (tokens : Tokens τ) (peer : Peer σ) (lock : String)
    (state : τ × σ) :
    (∀ fault, (tokens state.1 r.entityUri).1 = .error fault →
      (r.complete tokens peer lock state).result = .error fault ∧
        (r.complete tokens peer lock state).sent = [] ∧
        (r.complete tokens peer lock state).peer = state.2) ∧
    ((r.complete tokens peer lock state).result = .ok () →
      ∃ token request first hops last response, (tokens state.1 r.entityUri).1 = .ok token ∧
        completeRequest? lock token = some request ∧ Http.prepare request = .ok first ∧
        (r.complete tokens peer lock state).sent = hops ++ [(last, .response response)] ∧
        Http.isSuccess response.status = true ∧ Hops first hops last ∧ hops.length ≤ Http.maxRedirects ∧
        (hops.all (·.2.repeats) = true → last.method = .delete ∧ last.Repeats request) ∧
        (hops.all (·.2.repeats) = false → last.Asks)) := by
  constructor
  · intro fault refused
    exact ask_refused peer (completeRequest? lock) (completed lock) refused
  · intro ok
    obtain ⟨token, request, first, hops, last, response, granted, made, prepared, split, success, chain, bound⟩ :=
      complete_ok ok
    refine ⟨token, request, first, hops, last, response, granted, made, prepared, split, success, chain, bound,
      ?_, chain.asked⟩
    intro all
    have delete : request.method = .delete := (Http.Request.ofText?_some made).2.1
    have repeats : last.Repeats request :=
      (chain.repeated all).trans (Http.prepare_repeats prepared)
    exact ⟨repeats.method.trans delete, repeats⟩

end

namespace Sample

def endpoint : Url where
  scheme := "http"
  username := ""
  password := none
  host := some (.name "ns1.servicebus.windows.net")
  port := none
  path := .segments [""]
  query := none
  fragment := none

def receiver : Receiver := { endpoint, path := ⟨"q1", by decide⟩ }

/-- Gives the same token to everybody. -/
def tokens : Tokens Unit := fun _ _ => (.ok "token", ())

/-- Gives a token to nobody. -/
def refusal : Tokens Unit := fun _ _ => (.error (.transient "no token"), ())

/-- What the broker says about a message of this name. -/
def properties (id : String) : Utf8.Bytes :=
  Utf8.bytes ("\x7b\"MessageId\":\"" ++ id ++
    "\",\"LockToken\":\"7f5c3a1e-2b4d-4c6e-8f90-123456789abc\"\x7d")

/-- Hands out a message of this name, answers the second request with this status and another place, and
accepts every other one. -/
def broker (id : String) (status : Nat) : Peer Nat
  | 0, _ => (.response { status := 201, headers := [("brokerproperties", properties id)] }, 1)
  | 1, _ => (.response { status, headers := [("location", Utf8.bytes "/x")] }, 2)
  | requests, _ => (.response { status := 200 }, requests + 1)

/-- What comes of receiving a message of this name. -/
def received (id : String) (status : Nat) : Asked (Option Locked) Unit Nat :=
  receiver.receive tokens (broker id status) .epoch ((), 0)

/-- What comes of completing the message in hand after that. -/
def completion (id : String) (status : Nat) (lock : String) : Asked Unit Unit Nat :=
  receiver.complete tokens (broker id status) lock ((), (received id status).peer)

/-- The lock of the message `m1`. -/
def lock : String :=
  "http://ns1.servicebus.windows.net/q1/messages/m1/7f5c3a1e-2b4d-4c6e-8f90-123456789abc"

end Sample

/-- A broker that redirects the deletion to another place gets it there, and none without a token. -/
theorem completed_after_hops_repeated :
    (Sample.receiver.complete Sample.refusal (Sample.broker "m1" 307) Sample.lock ((), 1)).sent = [] ∧
      (Sample.completion "m1" 307 Sample.lock).result = .ok () ∧
      ∃ earlier last response,
        (Sample.completion "m1" 307 Sample.lock).sent = earlier ++ [(last, .response response)] ∧
        last.method = .delete := by
  -- Only the last reply is no redirect, and the one before repeats.
  have ⟨ok, repeats⟩ : (Sample.completion "m1" 307 Sample.lock).result = .ok () ∧
      (Sample.completion "m1" 307 Sample.lock).sent.dropLast.all (·.2.repeats) = true := by
    decide +kernel
  obtain ⟨token, request, first, hops, last, response, -, -, -, split, -, -, -, repeated, -⟩ :=
    (completed_after_hops Sample.receiver Sample.tokens (Sample.broker "m1" 307) Sample.lock _).2 ok
  have before : (Sample.completion "m1" 307 Sample.lock).sent.dropLast = hops := by
    rw [Sample.completion, split, List.dropLast_concat]
  rw [before] at repeats
  have refused := (completed_after_hops Sample.receiver Sample.refusal (Sample.broker "m1" 307) Sample.lock
    ((), 1)).1 (.transient "no token") rfl
  exact ⟨refused.2.1, ok, hops, last, response, split, (repeated repeats).1⟩

/-- A broker that answers the deletion of the message in hand with 303 is asked at another place, and the
answer is taken for that to the deletion. -/
theorem completed_without_deletion :
    ∃ locked, (Sample.received "m1" 303).result = .ok (some locked) ∧
      (Sample.completion "m1" 303 locked.lock).result = .ok () ∧
      ∃ earlier last response,
        (Sample.completion "m1" 303 locked.lock).sent = earlier ++ [(last, .response response)] ∧
        Http.isSuccess response.status = true ∧ last.Asks := by
  have ⟨place, ok, other⟩ : (Sample.received "m1" 303).result.toOption.map (Option.map Locked.lock) =
        some (some Sample.lock) ∧ (Sample.completion "m1" 303 Sample.lock).result = .ok () ∧
      (Sample.completion "m1" 303 Sample.lock).sent.dropLast.all (·.2.repeats) = false := by
    decide +kernel
  obtain ⟨locked, given, same⟩ := received_some place
  obtain ⟨token, request, first, hops, last, response, -, -, -, split, success, chain, -⟩ := complete_ok ok
  have before : (Sample.completion "m1" 303 Sample.lock).sent.dropLast = hops := by
    rw [Sample.completion, split, List.dropLast_concat]
  rw [before] at other
  refine ⟨locked, given, ?_⟩
  rw [same]
  exact ⟨ok, hops, last, response, split, success, chain.asked other⟩

end Receiver

end BusRelay
