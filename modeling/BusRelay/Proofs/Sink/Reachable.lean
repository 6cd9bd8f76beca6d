import BusRelay.Proofs.Conversion.Wrap
import BusRelay.Proofs.Sink.Retry
import BusRelay.Proofs.Startup
import BusRelay.Proofs.Url.Host
/-!
# Sinks that can be posted to

A sink is accepted if its text is a URL. Whether an event can be posted to it is more than that: the URL has to be one
of the web, its host of characters that requests are made with, and the whole not too long (`Url.Postable`). Every
attempt then starts with a request to it. But to any other sink that is accepted nothing is ever sent, and what is said
of it is what is said of a connection that fails, so that it is tried again (`send_reaches`).
-/

namespace BusRelay

open Http (Peer Request)

namespace EventHeaders

/-- All headers of an event have values that can stand there. -/
theorem isHeaderValue_headers {e : Event} {headers : Dict String} (made : EventHeaders.headers e = .ok headers) :
    ∀ header ∈ headers.entries, Http.isHeaderValue header.2 = true := by
  rintro ⟨name, value⟩ mem
  have found : headers.get? name = some value := headers.ascending.get?_eq_some_iff.2 mem
  have encoded {before : Dict String} (put : putAll {} (attributes e) = .ok before)
      (found : before.get? name = some value) : Http.isHeaderValue value = true := by
    rw [get?_putAll put] at found
    cases given : supplied? name (attributes e) with
    | none =>
      rw [given] at found
      cases found
    | some plain =>
      rw [given] at found
      cases found
      exact isHeaderValue_encodeValue plain
  obtain ⟨before, put, ⟨-, rfl⟩ | ⟨type, -, fits, rfl⟩⟩ := headers_cases made
  · exact encoded put found
  · rw [Dict.get?_insert] at found
    split at found
    · cases found
      exact fits
    · exact encoded put found

end EventHeaders

namespace Url

/-- A URL of the web that names a host. -/
def OfWeb (url : Url) : Prop := (url.scheme = "http" ∨ url.scheme = "https") ∧ ∃ host, url.hostText? = some host

/-- Requests can be made for a URL that was read. -/
structure Postable (url : Url) : Prop where
  web : url.scheme = "http" ∨ url.scheme = "https"
  host : ∀ host, url.hostText? = some host → ∀ c ∈ host.toList, Http.isForbiddenHostChar c = false
  short : (Utf8.bytes url.withoutUser.text).length ≤ Http.maxUrlLength

theorem isRequestable_iff_postable {text : String} {url : Url} (read : parse text = .ok url) :
    Http.isRequestable url.withoutUser = true ↔ url.Postable := by
  rw [Http.isRequestable_iff]
  constructor
  · rintro ⟨web, ⟨host, named, plain⟩, short⟩
    refine ⟨web, fun other named' => ?_, short⟩
    obtain rfl : host = other := Option.some.inj (named.symm.trans named')
    exact plain
  · intro postable
    have special : isSpecial url.scheme = true ∧ url.scheme ≠ "file" := by
      rcases postable.web with web | web
      · rw [web]
        decide
      · rw [web]
        decide
    obtain ⟨host, named⟩ := exists_hostText? read special.1 special.2
    exact ⟨postable.web, ⟨host, named, postable.host host named⟩, postable.short⟩

end Url

namespace Sender

section

variable {σ : Type} (peer : Peer σ) {r : Request} (state : σ)

theorem attempts_ofWeb (n : Nat) : ∀ exchange ∈ (attempts peer r state n).sent, exchange.1.url.OfWeb := by
  intro exchange mem
  have requestable : Http.isRequestable exchange.1.url = true := by
    cases n with
    | zero => exact Http.carryOut_requestable peer exchange mem
    | succ n => exact Http.carryOut_requestable peer exchange mem
  obtain ⟨web, ⟨host, named, -⟩, -⟩ := Http.isRequestable_iff.1 requestable
  exact ⟨web, host, named⟩

/-- What cannot be sent is not sent in any attempt. -/
theorem attempts_refused {fault : Http.ClientFault} (refused : Http.prepare r = .error fault) (n : Nat) :
    attempts peer r state n = ⟨.error fault, [], state⟩ := by
  have once (state : σ) : Http.carryOut peer state r = ⟨.error fault, [], state⟩ := by
    rw [Http.carryOut, refused]
  induction n with
  | zero => exact once state
  | succ n ih => rw [attempts, ih, once]

end

/-- What is accepted is a URL, and the first pause is not too long to be doubled. -/
theorem ofTarget_ok {text : String} {base : Posting} (accepted : Posting.ofTarget text = .ok base) :
    Url.parse text = .ok base.target ∧ base.pause.nanoseconds ≤ Duration.max.nanoseconds := by
  have short : (Duration.ofMilliseconds 100).nanoseconds ≤ Duration.max.nanoseconds := by decide
  unfold Posting.ofTarget at accepted
  split at accepted
  · rename_i read
    cases accepted
    exact ⟨read, short⟩
  · cases accepted

/-- **Reaching a sink.** A sink was accepted, and an event has headers. However often it is tried and whoever answers,
every request is sent to a URL of the web that names a host. If requests can be made for the URL of the sink, every
attempt starts with one that posts the event there. If not, nothing is sent; all tries are used up, and the answer is
that of a connection that fails. -/
theorem send_reaches {text : String} {base : Posting} (accepted : Posting.ofTarget text = .ok base) (retries : Nat)
    (timeout : Duration) {e : Event} {headers : Dict String} (written : EventHeaders.headers e = .ok headers) {σ : Type}
    (peer : Peer σ) (state : σ) :
    let posted := send { base with retries, timeout } peer state e
    let made := attempts peer (request base.target headers e) state
    (∀ exchange ∈ posted.sent, exchange.1.url.OfWeb) ∧
    (base.target.Postable → ∃ first, Posts headers e first ∧ first.url = base.target.withoutUser ∧
      ∃ k ≤ retries, posted.sent = (List.range (k + 1)).flatMap (fun n => (made n).sent) ∧
        ∀ n, ∃ reply more, (made n).sent = (first, reply) :: more) ∧
    (¬ base.target.Postable → posted.sent = [] ∧ posted.state = state ∧ posted.pauses.length = retries ∧
      posted.answer = .error (.transport ("builder error for url (" ++ base.target.withoutUser.text ++ ")"))) := by
  intro posted made
  obtain ⟨read, short⟩ := ofTarget_ok accepted
  have reached : Http.isRequestable base.target.withoutUser = true ↔ base.target.Postable :=
    Url.isRequestable_iff_postable read
  have values : ∀ header ∈ headers.entries, Http.isHeaderValue header.2 = true :=
    EventHeaders.isHeaderValue_headers written
  obtain ⟨k, least, answer, sent, left, pauses⟩ := send_run { base with retries, timeout } peer short state written
  refine ⟨?_, ?_, ?_⟩
  · intro exchange mem
    rw [show posted.sent = _ from sent] at mem
    obtain ⟨n, -, among⟩ := List.mem_flatMap.1 mem
    exact attempts_ofWeb peer state n exchange among
  · intro postable
    obtain ⟨first, prepared⟩ : ∃ first, Http.prepare (request base.target headers e) = .ok first :=
      Http.prepare_ok values (reached.2 postable)
    exact ⟨first, .of_repeats written (Http.prepare_repeats prepared), (Http.prepare_place prepared).1, k,
      least.2 (.inr rfl), sent, attempts_first peer prepared state⟩
  · intro unreachable
    have refused : Http.prepare (request base.target headers e) = .error (.builder (some base.target.withoutUser)) :=
      Http.prepare_refused values (Bool.eq_false_iff.2 (mt reached.1 unreachable))
    have each (n : Nat) : attempts peer (request base.target headers e) state n =
        ⟨.error (.builder (some base.target.withoutUser)), [], state⟩ := attempts_refused peer state refused n
    simp only [each] at least answer sent left
    -- such an answer is never final, so that only the number of tries ends them
    obtain rfl : k = retries := by
      rcases least.1 with final | last
      · cases final
      · exact last
    refine ⟨?_, left, ?_, answer⟩
    · exact sent.trans (List.flatMap_eq_nil_iff.2 fun _ _ => rfl)
    · rw [show posted.pauses = _ from pauses, List.length_map, List.length_range]

namespace Sample

/-- Takes whatever comes. -/
def willing : Peer Nat := fun requests _ => (.response { status := 204 }, requests + 1)

/-- An environment whose sink is a host and a port without a scheme. -/
def schemeless : Environment := Configuration.Sample.environment "hunter2" "3" ++ [("K_SINK", "localhost:8080")]

end Sample

/-- An event reaches a sink of the web, but not one of another scheme, although both are accepted. -/
theorem send_reaches_web : ∃ near far headers,
    Posting.ofTarget "http://user@sink.example" = .ok near ∧ Posting.ofTarget "ftp://sink.example" = .ok far ∧
    EventHeaders.headers Sample.event = .ok headers ∧
    near.target.Postable ∧ ¬ far.target.Postable ∧
    (∃ first reply more, Posts headers Sample.event first ∧ first.url = near.target.withoutUser ∧
      (send { near with retries := 2 } Sample.willing 0 Sample.event).sent = (first, reply) :: more) ∧
    (send { far with retries := 2 } Sample.willing 0 Sample.event).sent = [] ∧
    (send { far with retries := 2 } Sample.willing 0 Sample.event).pauses.length = 2 := by
  obtain ⟨near, accepted, requestable⟩ : ∃ near, Posting.ofTarget "http://user@sink.example" = .ok near ∧
      Http.isRequestable near.target.withoutUser = true := ⟨_, rfl, by rfl⟩
  obtain ⟨far, accepted', refused⟩ : ∃ far, Posting.ofTarget "ftp://sink.example" = .ok far ∧
      Http.isRequestable far.target.withoutUser = false := ⟨_, rfl, by rfl⟩
  obtain ⟨headers, written⟩ : ∃ headers, EventHeaders.headers Sample.event = .ok headers := ⟨_, rfl⟩
  have postable : near.target.Postable := (Url.isRequestable_iff_postable (ofTarget_ok accepted).1).1 requestable
  have unreachable : ¬ far.target.Postable := by
    rw [← Url.isRequestable_iff_postable (ofTarget_ok accepted').1, refused]
    exact Bool.false_ne_true
  obtain ⟨-, reaches, -⟩ := send_reaches accepted 2 near.timeout written Sample.willing 0
  obtain ⟨-, -, misses⟩ := send_reaches accepted' 2 far.timeout written Sample.willing 0
  obtain ⟨first, posts, place, k, -, sent, starts⟩ := reaches postable
  obtain ⟨reply, more, start⟩ := starts 0
  obtain ⟨quiet, -, pauses, -⟩ := misses unreachable
  have begins : ∃ more,
      (send { near with retries := 2 } Sample.willing 0 Sample.event).sent = (first, reply) :: more := by
    rw [sent, List.range_succ_eq_map, List.flatMap_cons, start]
    exact ⟨_, rfl⟩
  obtain ⟨all, begins⟩ := begins
  exact ⟨near, far, headers, accepted, accepted', written, postable, unreachable,
    ⟨first, reply, all, posts, place, begins⟩, quiet, pauses⟩

/-- A sink without a scheme is accepted, and the program listens with it. But nothing is ever sent, as if a connection
had failed. -/
theorem schemeless_sink_accepted :
    (∃ base headers, Posting.ofTarget "localhost:8080" = .ok base ∧
      EventHeaders.headers Sample.event = .ok headers ∧
      (send { base with retries := 2 } Sample.willing 0 Sample.event).sent = [] ∧
      (send { base with retries := 2 } Sample.willing 0 Sample.event).answer =
        .error (.transport "builder error for url (localhost:8080)")) ∧
    (Configuration.load Sample.schemeless).toOption.map Configuration.sink = some "localhost:8080" ∧
    (Session.start Sample.schemeless).code? = none := by
  refine ⟨⟨_, _, rfl, rfl, rfl, rfl⟩, ?_⟩
  decide +kernel

end Sender

end BusRelay
