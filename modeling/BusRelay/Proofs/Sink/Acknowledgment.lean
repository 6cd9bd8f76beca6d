import BusRelay.Proofs.Http.Redirect
import BusRelay.Proofs.Sink.Value
import BusRelay.Sink.Sender
/-!
# What a positive answer tells

A positive answer comes from the last response, and this answers the event's own request if every redirect
on the way was a repetition (`accepted_after_hops`). After any other redirect it answers a request without
method, headers or body of the event, and the event is counted as accepted all the same
(`accepted_without_event`).
-/

namespace BusRelay

open Http (Request Reply Hops)

/-! ## Headers -/

namespace EventHeaders

/-- The headers in which a client speaks for itself. -/
def clientNames : List String := ["authorization", "referer"]

/-- No attribute goes by the name of a header of the client. -/
theorem headerName_ne (name : String) {own : String} (mem : own ∈ clientNames) : headerName name ≠ own := by
  rintro rfl
  simp only [clientNames, List.mem_cons, List.not_mem_nil, or_false] at mem
  rcases mem with same | same <;>
  · have chars := congrArg String.toList same
    simp [headerName, String.toList_append] at chars

theorem putAll_get? {own : String} (mem : own ∈ clientNames) {entries : List (String × String)}
    {before after : Dict String} (put : putAll before entries = .ok after) (none : before.get? own = none) :
    after.get? own = .none := by
  induction entries generalizing before with
  | nil =>
    cases put
    exact none
  | cons entry rest ih =>
    obtain ⟨name, value⟩ := entry
    rw [putAll_cons] at put
    split at put
    · refine ih put ?_
      rw [Dict.get?_insert, if_neg (headerName_ne name mem).symm, none]
    · cases put

/-- An event has no header of the client among its own. -/
theorem headers_get? {e : Event} {headers : Dict String} (made : EventHeaders.headers e = .ok headers)
    {own : String} (mem : own ∈ clientNames) : headers.get? own = none := by
  have other : own ≠ "content-type" := by
    rintro rfl
    revert mem
    decide
  simp only [EventHeaders.headers, bind, Except.bind] at made
  split at made
  · cases made
  · rename_i attributes put
    have plain := putAll_get? mem put (Dict.get?_empty _)
    split at made
    · cases made
      exact plain
    · split at made
      · cases made
        rw [Dict.get?_insert, if_neg other, plain]
      · cases made

end EventHeaders

/-! ## Trying again -/

/-- The answer of repeated attempts is that of the last one. -/
theorem tryAgain_ok {σ : Type} {attempt : σ → SendAnswer × σ} {left : Nat} {pause : Duration} {state : σ}
    (ok : (tryAgain attempt left pause state).answer = .ok ()) :
    ∃ before, (attempt before).1 = .ok () ∧ (tryAgain attempt left pause state).state = (attempt before).2 := by
  fun_induction tryAgain attempt left pause state with
  | case1 pause state fault after left tried retryable rest ih => exact ih ok
  | case2 => cases ok
  | case3 left pause state answer after tried =>
    refine ⟨state, ?_, ?_⟩
    · rw [tried]
      exact ok
    · rw [tried]

namespace Sender

/-- A request posts an event to whoever gets it: its payload is the body, and it has all of its headers. -/
structure Posts (headers : Dict String) (e : Event) (r : Request) : Prop where
  method : r.method = .post
  body : r.body = (e.payload.map Payload.octets).getD []
  headers : ∀ name value, headers.get? name = some value → r.headers.get? name = some value

/-- What repeats the request of an event posts the event. -/
theorem Posts.of_repeats {target : Url} {headers : Dict String} {e : Event} {r : Request}
    (made : EventHeaders.headers e = .ok headers) (repeats : r.Repeats (request target headers e)) :
    Posts headers e r := by
  refine ⟨repeats.method, ?_, fun name value given => ?_⟩
  · rw [repeats.body, request]
    cases e.payload <;> rfl
  · have other {own : String} (mem : own ∈ EventHeaders.clientNames) : name ≠ own := by
      rintro rfl
      rw [EventHeaders.headers_get? made mem] at given
      cases given
    rw [repeats.headers name (other (by decide)) (other (by decide))]
    exact given

section

variable {σ : Type} (posting : Posting) (peer : Http.Peer σ)

theorem attempt_ok {r : Request} {progress : Progress σ} (ok : (attempt peer r progress).1 = .ok ()) :
    ∃ first hops last response, Http.prepare r = .ok first ∧
      (attempt peer r progress).2.sent = progress.sent ++ (hops ++ [(last, .response response)]) ∧
        Http.isSuccess response.status = true ∧ Hops first hops last ∧ hops.length ≤ Http.maxRedirects := by
  have answered : answerOf (Http.carryOut peer progress.peer r).result = .ok () := ok
  cases result : (Http.carryOut peer progress.peer r).result with
  | error fault =>
    rw [result] at answered
    cases answered
  | ok response =>
    have success : Http.isSuccess response.status = true := by
      rw [result] at answered
      simp only [answerOf] at answered
      split at answered
      · assumption
      · cases answered
    obtain ⟨first, hops, last, prepared, split, chain, bound⟩ := Http.carryOut_ok peer result
    exact ⟨first, hops, last, response, prepared, congrArg (progress.sent ++ ·) split, success, chain, bound⟩

/-- **What a positive answer tells.** If an event is accepted, then the last of all requests that were sent
got a response of success, and it goes back to the event's own request by at most ten redirects. If each
of them repeats the request, the last one posts the event, with its headers and its payload. But if any
other redirect is among them, the last one only asks, and the sink has not got the event. -/
theorem accepted_after_hops (state : σ) (e : Event) (ok : (send posting peer state e).answer = .ok ()) :
    ∃ headers first earlier hops last response, EventHeaders.headers e = .ok headers ∧
      Http.prepare (request posting.target headers e) = .ok first ∧
      (send posting peer state e).sent = earlier ++ (hops ++ [(last, .response response)]) ∧
      Http.isSuccess response.status = true ∧ Hops first hops last ∧ hops.length ≤ Http.maxRedirects ∧
      (hops.all (·.2.repeats) = true → Posts headers e last) ∧
      (hops.all (·.2.repeats) = false → last.Asks) := by
  cases made : EventHeaders.headers e with
  | error fault =>
    simp only [send, made] at ok
    cases ok
  | ok headers =>
    simp only [send, made] at ok ⊢
    obtain ⟨before, accepted, after⟩ := tryAgain_ok ok
    obtain ⟨first, hops, last, response, prepared, split, success, chain, bound⟩ := attempt_ok peer accepted
    refine ⟨headers, first, before.sent, hops, last, response, rfl, prepared, ?_, success, chain, bound, ?_,
      chain.asked⟩
    · rw [after, split]
    · exact fun all => .of_repeats made ((chain.repeated all).trans (Http.prepare_repeats prepared))

end

namespace Sample

def target : Url where
  scheme := "http"
  username := ""
  password := none
  host := some (.name "sink.example")
  port := none
  path := .segments [""]
  query := none
  fragment := none

def posting : Posting := { target }

def event : Event := { id := "e1", source := "queue", kind := "created", time := .epoch }

/-- Redirects the first request, with this status, and accepts every other one. -/
def mover (status : Nat) : Http.Peer Nat
  | 0, _ => (.response { status, headers := [("location", Utf8.bytes "/x")] }, 1)
  | requests, _ => (.response { status := 200 }, requests + 1)

end Sample

/-- A sink that redirects the event's request to another place gets the event there. -/
theorem accepted_after_hops_repeated :
    (send Sample.posting (Sample.mover 307) 0 Sample.event).answer = .ok () ∧
      ∃ headers earlier last response, EventHeaders.headers Sample.event = .ok headers ∧
        (send Sample.posting (Sample.mover 307) 0 Sample.event).sent = earlier ++ [(last, .response response)] ∧
        Posts headers Sample.event last := by
  have ok : (send Sample.posting (Sample.mover 307) 0 Sample.event).answer = .ok () := by rfl
  obtain ⟨headers, first, earlier, hops, last, response, made, -, split, -, -, -, posts, -⟩ :=
    accepted_after_hops Sample.posting (Sample.mover 307) 0 Sample.event ok
  rw [← List.append_assoc] at split
  -- Only the last reply is no redirect, and the one before repeats.
  have repeats : (send Sample.posting (Sample.mover 307) 0 Sample.event).sent.dropLast.all (·.2.repeats) = true := by
    rfl
  rw [split, List.dropLast_concat, List.all_append, Bool.and_eq_true] at repeats
  exact ⟨ok, headers, earlier ++ hops, last, response, made, split, posts repeats.2⟩

/-- A sink that answers 303 is asked at another place, without the event, and the answer is taken for it. -/
theorem accepted_without_event :
    (send Sample.posting (Sample.mover 303) 0 Sample.event).answer = .ok () ∧
      ∃ first last moved given, (send Sample.posting (Sample.mover 303) 0 Sample.event).sent =
        [(first, .response moved), (last, .response given)] ∧ Http.isSuccess given.status = true ∧ last.Asks :=
  ⟨by rfl, _, _, _, _, by rfl, by rfl, by rfl, by rfl⟩

end Sender

end BusRelay
