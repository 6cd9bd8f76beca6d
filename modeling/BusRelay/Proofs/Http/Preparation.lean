import BusRelay.Http.Client
/-!
# Requests that can be sent

A request can be sent if all values of its headers can stand there and requests can be made for its URL
(`prepare_ok`), which depends on the scheme, the host and the length of the URL alone
(`isRequestable_of_same`). What is sent goes to the URL without the user (`prepare_place`), or where redirects lead,
and never to a URL that no request can be made for (`carryOut_requestable`).
-/

namespace BusRelay.Http

/-- A request whose values and whose URL are fit is sent as it is, with the user of its place as credentials. -/
theorem prepare_fit {r : Request} (values : ∀ header ∈ r.headers.entries, isHeaderValue header.2 = true)
    (requestable : isRequestable r.url.withoutUser = true) :
    prepare r = .ok { r with url := r.url.withoutUser, credentials := userCredentials? r.url } := by
  have all : (r.headers.entries.all fun header => isHeaderValue header.2) = true := List.all_eq_true.2 values
  unfold prepare
  rw [if_pos all]
  dsimp only
  rw [if_pos requestable]

/-- A request whose values and whose URL are fit can be sent. -/
theorem prepare_ok {r : Request} (values : ∀ header ∈ r.headers.entries, isHeaderValue header.2 = true)
    (requestable : isRequestable r.url.withoutUser = true) : ∃ first, prepare r = .ok first :=
  ⟨_, prepare_fit values requestable⟩

/-- A request that is fit to be sent goes to the place that was asked for. -/
theorem prepare_place {r first : Request} (prepared : prepare r = .ok first) :
    first.url = r.url.withoutUser ∧ isRequestable first.url = true := by
  simp only [prepare] at prepared
  split at prepared
  · split at prepared
    · rename_i requestable
      cases prepared
      exact ⟨rfl, requestable⟩
    · cases prepared
  · cases prepared

/-- Whether a request can be made depends on the scheme, the host and the length alone. -/
theorem isRequestable_of_same {url other : Url} (requestable : isRequestable other = true)
    (scheme : url.scheme = other.scheme) (host : url.host = other.host)
    (short : (Utf8.bytes url.text).length ≤ maxUrlLength) : isRequestable url = true := by
  have name : url.hostText? = other.hostText? := by
    unfold Url.hostText?
    rw [host]
  simp only [isRequestable, Bool.and_eq_true, decide_eq_true_eq] at requestable ⊢
  rw [scheme, name]
  exact ⟨requestable.1, short⟩

/-- Requests can be made for a URL of the web that names a host of characters that hosts of requests are made of, and
is not too long. -/
theorem isRequestable_iff {url : Url} : isRequestable url = true ↔
    (url.scheme = "http" ∨ url.scheme = "https") ∧
      (∃ host, url.hostText? = some host ∧ ∀ c ∈ host.toList, isForbiddenHostChar c = false) ∧
      (Utf8.bytes url.text).length ≤ maxUrlLength := by
  unfold isRequestable
  rw [Bool.and_eq_true, Bool.and_eq_true, Bool.or_eq_true, and_assoc]
  simp only [decide_eq_true_eq]
  cases url.hostText? with
  | none => simp
  | some host => simp

theorem isRequestable_scheme {url : Url} (requestable : isRequestable url = true) :
    url.scheme = "http" ∨ url.scheme = "https" := (isRequestable_iff.1 requestable).1

/-- A request with fit values cannot be sent if no request can be made for its URL. -/
theorem prepare_refused {r : Request} (values : ∀ header ∈ r.headers.entries, isHeaderValue header.2 = true)
    (refused : isRequestable r.url.withoutUser = false) :
    prepare r = .error (.builder (some r.url.withoutUser)) := by
  have all : (r.headers.entries.all fun header => isHeaderValue header.2) = true := List.all_eq_true.2 values
  unfold prepare
  rw [if_pos all]
  dsimp only
  rw [refused, if_neg Bool.false_ne_true]

section

variable {σ : Type} (peer : Peer σ) {state : σ} {r : Request}

/-- Wherever redirects lead, what is sent is sent to URLs that requests can be made for. -/
theorem follow_requestable {redirects : Nat} :
    ∀ exchange ∈ (follow peer redirects state r).sent, isRequestable exchange.1.url = true := by
  fun_induction follow peer redirects state r with
  | case1 redirects state r requestable | case2 redirects state r requestable | case3 redirects state r requestable
  | case4 state r requestable =>
    intro exchange mem
    obtain rfl := List.mem_singleton.1 mem
    exact requestable
  | case5 state r requestable after given next redirected redirects rest reply sent ih =>
    intro exchange mem
    rcases List.mem_append.1 mem with first | later
    · obtain rfl := List.mem_singleton.1 first
      exact requestable
    · exact ih exchange later
  | case6 =>
    intro exchange mem
    exact absurd mem List.not_mem_nil

theorem carryOut_requestable :
    ∀ exchange ∈ (carryOut peer state r).sent, isRequestable exchange.1.url = true := by
  rw [carryOut]
  split
  · exact List.forall_mem_nil _
  · exact follow_requestable peer

end

end BusRelay.Http
