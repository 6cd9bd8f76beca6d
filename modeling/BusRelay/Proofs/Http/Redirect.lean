import BusRelay.Http.Client
/-!
# Redirects

A response answers the last of the requests that led to it (`carryOut_ok`). As long as these are repeated,
it is the request that was made, but for the place; any other redirect makes of it one that only asks and
carries nothing (`Hops.repeated`, `Hops.asked`). So everything that is sent on the way repeats the request
or only asks (`carryOut_sent`).
-/

namespace BusRelay.Http

/-- A request to a text that is a URL asks for what it was made for. -/
theorem Request.ofText?_some {method : Http.Method} {text : String} {headers : Dict String}
    {body : Utf8.Bytes} {request : Request} (made : Request.ofText? method text headers body = some request) :
    Url.parse text = .ok request.url ∧ request.method = method ∧ request.headers = headers ∧
      request.body = body := by
  unfold Request.ofText? at made
  split at made
  · rename_i url read
    cases made
    exact ⟨read, rfl, rfl, rfl⟩
  · cases made

/-- Whether a reply redirects to the same request at another place. -/
def Reply.repeats : Reply → Bool
  | response r => r.status = 307 || r.status = 308
  | _ => false

/-- Requests that were redirected, from the first one to a last one that follows them. -/
inductive Hops : Request → List (Request × Reply) → Request → Prop where
  | nil (r : Request) : Hops r [] r
  | cons {r next last : Request} {response : Response} {rest : List (Request × Reply)}
      (redirects : redirect? r response = some next) (more : Hops next rest last) :
      Hops r ((r, .response response) :: rest) last

/-- A response to one of these requests redirects to a request. -/
def RedirectedIn (sent : List (Request × Reply)) (r : Request) : Prop :=
  ∃ earlier ∈ sent, ∃ response, earlier.2 = .response response ∧ redirect? earlier.1 response = some r

/-- A request is another one at some place, perhaps without its credentials and with a word about where it comes
from. -/
structure Request.Repeats (r other : Request) : Prop where
  method : r.method = other.method
  body : r.body = other.body
  headers : ∀ name, name ≠ "authorization" → name ≠ "referer" → r.headers.get? name = other.headers.get? name
  authorization : r.headers.get? "authorization" = other.headers.get? "authorization" ∨
    r.headers.get? "authorization" = none

/-- A request only asks. -/
def Request.Asks (r : Request) : Prop := r.method = .get ∧ r.body = []

namespace Request.Repeats

variable {r other another : Request}

theorem refl (r : Request) : r.Repeats r := ⟨rfl, rfl, fun _ _ _ => rfl, .inl rfl⟩

theorem trans (first : r.Repeats other) (second : other.Repeats another) : r.Repeats another := by
  refine ⟨first.method.trans second.method, first.body.trans second.body,
    fun name granted told => (first.headers name granted told).trans (second.headers name granted told), ?_⟩
  rcases first.authorization with same | none
  · rw [same]
    exact second.authorization
  · exact .inr none

theorem asks (repeats : r.Repeats other) (asks : other.Asks) : r.Asks :=
  ⟨repeats.method.trans asks.1, repeats.body.trans asks.2⟩

end Request.Repeats

section

variable {r next last : Request} {response : Response}

theorem get?_headersTo (r : Request) (url : Url) {name : String} (other : name ≠ "referer") :
    (r.headersTo url).get? name = r.headers.get? name := by
  unfold Request.headersTo
  split
  · rw [Dict.get?_insert, if_neg other]
  · rfl

/-- On its way to another place a request changes nothing but what it says of itself. -/
theorem moved_repeats (r : Request) (url : Url) : (r.moved url).Repeats r := by
  unfold Request.moved
  split
  · exact ⟨rfl, rfl, fun name _ other => get?_headersTo r url other, .inl (get?_headersTo r url (by decide))⟩
  · refine ⟨rfl, rfl, fun name granted other => ?_, .inr ?_⟩
    · rw [Dict.get?_erase, if_neg granted, get?_headersTo r url other]
    · rw [Dict.get?_erase, if_pos rfl]

/-- What a redirect makes of a request. -/
theorem redirect?_cases (redirects : redirect? r response = some next) :
    if (Reply.response response).repeats then next.Repeats r else next.Asks := by
  unfold redirect? at redirects
  split at redirects
  · rename_i repeated
    obtain ⟨url, -, rfl⟩ := Option.map_eq_some_iff.1 redirects
    rw [Reply.repeats, if_pos repeated]
    exact moved_repeats r url
  · rename_i other
    split at redirects
    · obtain ⟨url, -, rfl⟩ := Option.map_eq_some_iff.1 redirects
      rw [Reply.repeats, if_neg other]
      exact ⟨rfl, rfl⟩
    · cases redirects

namespace Hops

variable {hops : List (Request × Reply)}

/-- As long as requests are repeated, the last one is the first one at some place. -/
theorem repeated (h : Hops r hops last) (all : hops.all (·.2.repeats) = true) : last.Repeats r := by
  induction h with
  | nil r => exact .refl r
  | cons redirects more ih =>
    simp only [List.all_cons, Bool.and_eq_true] at all
    have next := redirect?_cases redirects
    rw [if_pos all.1] at next
    exact (ih all.2).trans next

/-- A request that only asks is followed by nothing else. -/
theorem keeps_asking (h : Hops r hops last) (asks : r.Asks) : last.Asks := by
  induction h with
  | nil r => exact asks
  | cons redirects more ih =>
    have next := redirect?_cases redirects
    split at next
    · exact ih (next.asks asks)
    · exact ih next

/-- Once a request is not repeated, the last one only asks. -/
theorem asked (h : Hops r hops last) (some : hops.all (·.2.repeats) = false) : last.Asks := by
  induction h with
  | nil r => cases some
  | @cons r next last response rest redirects more ih =>
    have here := redirect?_cases redirects
    cases repeats : (Reply.response response).repeats with
    | true =>
      rw [List.all_cons, repeats, Bool.true_and] at some
      exact ih some
    | false =>
      rw [repeats, if_neg Bool.false_ne_true] at here
      exact more.keeps_asking here

end Hops

end

section

variable {σ : Type} (peer : Peer σ) {response : Response}

/-- The response to a request that may be redirected belongs to the last request that was sent. -/
theorem follow_ok {redirects : Nat} {state : σ} {r : Request}
    (ok : (follow peer redirects state r).result = .ok response) :
    ∃ hops last, (follow peer redirects state r).sent = hops ++ [(last, .response response)] ∧
      Hops r hops last ∧ hops.length ≤ redirects := by
  fun_induction follow peer redirects state r with
  | case3 redirects state r requestable after given last reply sent =>
    cases ok
    exact ⟨[], r, rfl, .nil r, Nat.zero_le redirects⟩
  | case5 state r requestable after given next redirected redirects rest reply sent ih =>
    obtain ⟨hops, last, split, chain, bound⟩ := ih ok
    refine ⟨(r, .response given) :: hops, last, ?_, .cons redirected chain, Nat.succ_le_succ bound⟩
    change [(r, Reply.response given)] ++ rest.sent = _
    rw [split]
    rfl
  | case1 | case2 | case4 | case6 => cases ok

/-- A request that can be made is sent first. -/
theorem follow_first {redirects : Nat} {state : σ} {r : Request} (requestable : isRequestable r.url = true) :
    ∃ reply more, (follow peer redirects state r).sent = (r, reply) :: more := by
  fun_cases follow peer redirects state r with
  | case1 | case2 | case3 | case4 => exact ⟨_, [], rfl⟩
  | case5 => exact ⟨_, _, List.singleton_append⟩
  | case6 _ _ _ other => exact absurd requestable other

/-- Whatever is sent for a request repeats it or only asks. -/
theorem follow_sent {redirects : Nat} {state : σ} {r : Request} :
    ∀ exchange ∈ (follow peer redirects state r).sent, exchange.1.Repeats r ∨ exchange.1.Asks := by
  fun_induction follow peer redirects state r with
  | case1 | case2 | case3 | case4 =>
    intro exchange mem
    obtain rfl := List.mem_singleton.1 mem
    exact .inl (.refl _)
  | case5 state r requestable after given next redirected redirects rest reply sent ih =>
    intro exchange mem
    rcases List.mem_append.1 mem with first | later
    · obtain rfl := List.mem_singleton.1 first
      exact .inl (.refl r)
    · have step := redirect?_cases redirected
      rcases ih exchange later with repeats | asks
      · split at step
        · exact .inl (repeats.trans step)
        · exact .inr (repeats.asks step)
      · exact .inr asks
  | case6 =>
    intro exchange mem
    exact absurd mem List.not_mem_nil

/-- Whatever is sent for a request is the request, or a response on the way redirects to it. -/
theorem follow_redirected {redirects : Nat} {state : σ} {r : Request} :
    ∀ exchange ∈ (follow peer redirects state r).sent,
      exchange.1 = r ∨ RedirectedIn (follow peer redirects state r).sent exchange.1 := by
  fun_induction follow peer redirects state r with
  | case1 | case2 | case3 | case4 =>
    intro exchange mem
    obtain rfl := List.mem_singleton.1 mem
    exact .inl rfl
  | case5 state r requestable after given next redirected redirects rest reply sent ih =>
    intro exchange mem
    rcases List.mem_append.1 mem with first | later
    · obtain rfl := List.mem_singleton.1 first
      exact .inl rfl
    · rcases ih exchange later with same | ⟨earlier, among, response, replied, leads⟩
      · rw [same]
        exact .inr ⟨(r, .response given), List.mem_cons_self, given, rfl, redirected⟩
      · exact .inr ⟨earlier, List.mem_append_right _ among, response, replied, leads⟩
  | case6 =>
    intro exchange mem
    exact absurd mem List.not_mem_nil

/-- The request that is made is sent first, fit to be sent, and the response belongs to the last one. -/
theorem carryOut_ok {state : σ} {r : Request} (ok : (carryOut peer state r).result = .ok response) :
    ∃ first hops last, prepare r = .ok first ∧
      (carryOut peer state r).sent = hops ++ [(last, .response response)] ∧ Hops first hops last ∧
        hops.length ≤ maxRedirects := by
  cases prepared : prepare r with
  | error fault =>
    simp only [carryOut, prepared] at ok
    cases ok
  | ok first =>
    simp only [carryOut, prepared] at ok ⊢
    obtain ⟨hops, last, split, chain, bound⟩ := follow_ok peer ok
    exact ⟨first, hops, last, rfl, split, chain, bound⟩

end

/-- A request that is fit to be sent is the one that was made. -/
theorem prepare_repeats {r first : Request} (prepared : prepare r = .ok first) : first.Repeats r := by
  simp only [prepare] at prepared
  split at prepared
  · split at prepared
    · cases prepared
      exact ⟨rfl, rfl, fun _ _ _ => rfl, .inl rfl⟩
    · cases prepared
  · cases prepared

section

variable {σ : Type} (peer : Peer σ) (state : σ) {r : Request}

theorem carryOut_sent {state : σ} :
    ∀ exchange ∈ (carryOut peer state r).sent, exchange.1.Repeats r ∨ exchange.1.Asks := by
  intro exchange mem
  rw [carryOut] at mem
  split at mem
  · cases mem
  · rename_i first prepared
    exact (follow_sent peer exchange mem).imp_left fun repeats => repeats.trans (prepare_repeats prepared)

/-- A request that is fit to be sent is sent. -/
theorem carryOut_first {first : Request} (prepared : prepare r = .ok first) :
    ∃ reply more, (carryOut peer state r).sent = (first, reply) :: more := by
  have requestable : isRequestable first.url = true := by
    simp only [prepare] at prepared
    split at prepared
    · split at prepared
      · rename_i requestable
        cases prepared
        exact requestable
      · cases prepared
    · cases prepared
  rw [carryOut, prepared]
  exact follow_first peer requestable

end

end BusRelay.Http
