import BusRelay.Handling.Dispatch
import BusRelay.Proofs.Codec.Base64
import BusRelay.Proofs.Conversion.Document
import BusRelay.Proofs.Event.Validation
import BusRelay.Proofs.Json.RoundTrip
import BusRelay.Proofs.Sink.Acknowledgment
/-!
# Payloads

What is posted for an event of a message is what the event's object in the message has for a payload: the
octets that a Base64 text stands for, a JSON text that is read as the value, or nothing
(`payloads_arrive`).
-/

namespace BusRelay

open Http (Request Reply)

/-! ## What a body has to be -/

/-- A body is the payload that the object of an event gives: the octets of which the text under
`data_base64` is the Base64 text, or a JSON text that is read as the value under `data`, or nothing. -/
structure Carries (element : Json) (body : Utf8.Bytes) : Prop where
  binary : ∀ given, element.given? "data_base64" = some given →
    ∀ octets, given = .string (Base64.encode octets) ↔ octets = body
  json : ∀ value, element.given? "data" = some value → value.FloatFree → Json.decode? body = some value
  empty : element.given? "data" = none → element.given? "data_base64" = none → body = []
  single : element.given? "data" = none ∨ element.given? "data_base64" = none

namespace Carries

variable {element : Json}

/-- A value that is given is carried as a text of it. -/
theorem ofValue {value : Json} (document : element.IsDocument) (data : element.given? "data" = some value)
    (encoded : element.given? "data_base64" = none) : Carries element (Utf8.bytes value.text) := by
  have valid := document.given data
  refine ⟨fun given some => ?_, fun other some free => ?_, fun none => ?_, .inr encoded⟩
  · rw [encoded] at some
    cases some
  · rw [data] at some
    cases some
    exact (Json.decode?_text valid.within free).trans (congrArg _ valid.canonical)
  · rw [data] at none
    cases none

/-- Octets that a text is given for are carried as they are. -/
theorem ofOctets {text : String} {octets : Utf8.Bytes} (data : element.given? "data" = none)
    (encoded : element.given? "data_base64" = some (.string text))
    (decoded : Base64.decode (Utf8.bytes text) = .ok octets) : Carries element octets := by
  refine ⟨fun given some other => ?_, fun value some => ?_, fun _ none => ?_, .inl data⟩
  · rw [encoded] at some
    cases some
    rw [Json.string.injEq, eq_comm]
    exact Base64.encode_eq_iff decoded other
  · rw [data] at some
    cases some
  · rw [encoded] at none
    cases none

/-- Where nothing is given nothing is carried. -/
theorem nothing (data : element.given? "data" = none) (encoded : element.given? "data_base64" = none) :
    Carries element [] := by
  refine ⟨fun given some => ?_, fun value some => ?_, fun _ _ => rfl, .inl data⟩
  · rw [encoded] at some
    cases some
  · rw [data] at some
    cases some

end Carries

/-- The octets of the payload that was made of a structured event are what its object gives. -/
theorem carries_of_payload {element : Json} {e : StructuredEvent} {payload : Option Payload}
    (document : element.IsDocument) (made : e.payload = .ok payload) (data : element.given? "data" = e.data)
    (encoded : element.given? "data_base64" = e.encodedData.map Json.string) :
    Carries element ((payload.map Payload.octets).getD []) := by
  rw [StructuredEvent.payload] at made
  split at made
  · cases made
  · rename_i value valued uncoded
    rw [valued] at data
    rw [uncoded] at encoded
    cases made
    exact .ofValue document data encoded
  · rename_i text unvalued coded
    rw [unvalued] at data
    rw [coded] at encoded
    split at made
    · rename_i octets decoded
      cases made
      exact .ofOctets data encoded decoded
    · cases made
  · rename_i unvalued uncoded
    rw [unvalued] at data
    rw [uncoded] at encoded
    cases made
    exact .nothing data encoded

/-! ## What is posted -/

namespace Sender

/-- An event as the sink got it, and what was sent for it. -/
structure Sent where
  event : Event
  sent : List (Request × Reply)

section

variable {σ : Type} (posting : Posting) (peer : Http.Peer σ)

/-- A sink that posts events and keeps what was sent for each of them. -/
def recording : Sink (σ × List Sent) := fun (state, log) e =>
  let posted := send posting peer state e
  (posted.answer, (posted.state, log ++ [⟨e, posted.sent⟩]))

/-- Whatever is sent in repeated attempts is sent in one of them. -/
theorem tryAgain_sent {r : Request} {left : Nat} {pause : Duration} {progress : Progress σ} :
    ∀ exchange ∈ (tryAgain (attempt peer r) left pause progress).state.sent,
      exchange ∈ progress.sent ∨ exchange.1.Repeats r ∨ exchange.1.Asks := by
  have once {progress : Progress σ} {exchange : Request × Reply}
      (mem : exchange ∈ (attempt peer r progress).2.sent) :
      exchange ∈ progress.sent ∨ exchange.1.Repeats r ∨ exchange.1.Asks :=
    (List.mem_append.1 mem).imp_right (Http.carryOut_sent peer exchange)
  fun_induction tryAgain (attempt peer r) left pause progress with
  | case1 pause progress fault after left tried retryable rest ih =>
    intro exchange mem
    rcases ih exchange mem with earlier | now
    · exact once (tried ▸ earlier)
    · exact .inr now
  | case2 pause progress fault after left tried =>
    intro exchange mem
    exact once (tried ▸ mem)
  | case3 left pause progress answer after tried =>
    intro exchange mem
    exact once (tried ▸ mem)

/-- What is sent in the first attempt comes before all else. -/
theorem tryAgain_prefix {r : Request} {left : Nat} {pause : Duration} {progress : Progress σ} :
    (attempt peer r progress).2.sent <+: (tryAgain (attempt peer r) left pause progress).state.sent := by
  fun_induction tryAgain (attempt peer r) left pause progress with
  | case1 pause progress fault after left tried retryable rest ih =>
    rw [tried]
    exact (List.prefix_append after.sent _).trans ih
  | case2 pause progress fault after left tried =>
    simp only [tried, List.prefix_rfl]
  | case3 left pause progress answer after tried =>
    simp only [tried, List.prefix_rfl]

/-- Whoever gets a posted event gets its payload. -/
theorem body_of_sent {state : σ} {e : Event} {exchange : Request × Reply}
    (mem : exchange ∈ (send posting peer state e).sent) (posts : exchange.1.method = .post) :
    exchange.1.body = (e.payload.map Payload.octets).getD [] := by
  rw [send] at mem
  split at mem
  · cases mem
  · rename_i headers made
    rcases tryAgain_sent peer exchange mem with before | repeats | asks
    · cases before
    · exact (Posts.of_repeats made repeats).body
    · rw [asks.1] at posts
      cases posts

/-- An event that can be written in a request is posted. -/
theorem posted_first (state : σ) {e : Event} {headers : Dict String} {first : Request}
    (made : EventHeaders.headers e = .ok headers)
    (prepared : Http.prepare (request posting.target headers e) = .ok first) :
    ∃ reply more, (send posting peer state e).sent = (first, reply) :: more ∧ first.method = .post := by
  have attempted : (Http.carryOut peer state (request posting.target headers e)).sent <+:
      (send posting peer state e).sent := by
    rw [send, made]
    change (attempt peer (request posting.target headers e) { peer := state }).2.sent <+:
      (tryAgain (attempt peer (request posting.target headers e)) posting.retries posting.pause
        { peer := state }).state.sent
    exact tryAgain_prefix peer
  obtain ⟨reply, others, sent⟩ := Http.carryOut_first peer state prepared
  obtain ⟨more, all⟩ := attempted
  rw [sent] at all
  exact ⟨reply, others ++ more, all.symm, (Http.prepare_repeats prepared).method⟩

/-- What is recorded of a dispatch, event by event. -/
theorem dispatch_recording (events : List Event) (state : σ) (log : List Sent) : ∃ sent,
    (dispatch (recording posting peer) (state, log) events).state.2 = log ++ sent ∧
      List.Forall₂ (fun event d => d.event = event.prepare.1 ∧
        ∃ before, d.sent = (send posting peer before event.prepare.1).sent) events sent := by
  induction events generalizing state log with
  | nil => exact ⟨[], (List.append_nil log).symm, .nil⟩
  | cons event rest ih =>
    let posted := send posting peer state event.prepare.1
    obtain ⟨deliveries, kept, each⟩ := ih posted.state (log ++ [⟨event.prepare.1, posted.sent⟩])
    rw [List.append_assoc] at kept
    exact ⟨⟨event.prepare.1, posted.sent⟩ :: deliveries, kept, .cons ⟨rfl, state, rfl⟩ each⟩

/-- **Payloads arrive.** A body that is accepted is a JSON document, and an event is dispatched for each of
its elements. Neither the validation nor the repair of an event changes its payload. Whatever is posted for
an event, in the first attempt or a later one, at once or after redirects, carries the payload that the
event's object gives: the octets whose Base64 text is the one that is given, or a JSON text that is read as
the value, if this has no binary numbers, or nothing. And an event is posted if a request can be made of it
at all. -/
theorem payloads_arrive (state : σ) (source : String) (m : Message) (events : List Event)
    (made : Conversion.unpack.processor source m = .ok events) :
    ∃ doc, Json.decode? m.body = some doc ∧
      List.Forall₂ (fun element d =>
          (∀ exchange ∈ d.sent, exchange.1.method = .post → Carries element exchange.1.body) ∧
          ∀ headers first, EventHeaders.headers d.event = .ok headers →
            Http.prepare (request posting.target headers d.event) = .ok first →
              ∃ reply more, d.sent = (first, reply) :: more ∧ first.method = .post)
        doc.elements (dispatch (recording posting peer) (state, []) events).state.2 ∧
      List.Forall₂ (fun event d => d.event = event.prepare.1 ∧ d.event.payload = event.payload)
        events (dispatch (recording posting peer) (state, []) events).state.2 := by
  obtain ⟨doc, read, document, each⟩ := Unpack.document_ok made
  obtain ⟨deliveries, kept, sent⟩ := dispatch_recording posting peer events state []
  rw [List.nil_append] at kept
  rw [kept]
  refine ⟨doc, read, ?_, ?_⟩
  · have elements := (List.forall₂_and_left _ _).2 ⟨fun _ mem => document.element mem, each⟩
    refine (forall₂_comp.1 ⟨events, elements, sent⟩).imp ?_
    rintro element d ⟨event, ⟨document, e, payload, data, encoded⟩, same, before, all⟩
    rw [same]
    refine ⟨fun exchange mem posts => ?_, fun headers first made prepared => ?_⟩
    · rw [all] at mem
      rw [body_of_sent posting peer mem posts, Event.prepare_payload]
      exact carries_of_payload document payload data encoded
    · rw [all]
      exact posted_first posting peer before made prepared
  · exact sent.imp fun event d ⟨same, _⟩ => ⟨same, by rw [same, Event.prepare_payload]⟩

end

namespace Sample

/-- The value that comes with an event. -/
def value : Json := .array [.number (.integer (-1)), .string "é\n", .null]

/-- The object of an event with this name and perhaps one more member, before the others. -/
def element (id : String) (payload : List (String × Json)) : Json :=
  .object (payload ++ [("id", .string id), ("specversion", .string formatVersion), ("type", .string "created")])

/-- A message with three events: one with a value, one with octets, one without a payload. -/
def batch : Message where
  id := ⟨"batch", by decide⟩
  body := Utf8.bytes <|
    "[\x7b\"specversion\":\"1.0\",\"id\":\"e1\",\"type\":\"created\",\"data\":[-1,\"\\u00e9\\n\",null]\x7d," ++
    "\x7b\"specversion\":\"1.0\",\"id\":\"e2\",\"type\":\"created\",\"data_base64\":\"AAH/\"\x7d," ++
    "\x7b\"specversion\":\"1.0\",\"id\":\"e3\",\"type\":\"created\"\x7d]"

end Sample

set_option maxRecDepth 4000 in
/-- Three events arrive with their payloads at a sink that moved, the first of them after a redirect. -/
theorem payloads_arrive_three : ∃ events a b c,
    Conversion.unpack.processor "queue" Sample.batch = .ok events ∧
    (dispatch (recording Sample.posting (Sample.mover 307)) (0, []) events).state.2 = [a, b, c] ∧
    (a.sent.length = 2 ∧ ∀ exchange ∈ a.sent, exchange.1.method = .post →
      Json.decode? exchange.1.body = some Sample.value) ∧
    (b.sent.length = 1 ∧ ∀ exchange ∈ b.sent, exchange.1.method = .post → exchange.1.body = [0, 1, 255]) ∧
    (c.sent.length = 1 ∧ ∀ exchange ∈ c.sent, exchange.1.method = .post → exchange.1.body = []) := by
  obtain ⟨events, made, lengths⟩ : ∃ events, Conversion.unpack.processor "queue" Sample.batch = .ok events ∧
      (dispatch (recording Sample.posting (Sample.mover 307)) (0, []) events).state.2.map (·.sent.length) =
        [2, 1, 1] := ⟨_, rfl, by decide +kernel⟩
  obtain ⟨doc, read, arrive, -⟩ :=
    payloads_arrive Sample.posting (Sample.mover 307) 0 "queue" Sample.batch events made
  have elements : Json.decode? Sample.batch.body = some (.array [Sample.element "e1" [("data", Sample.value)],
      Sample.element "e2" [("data_base64", .string "AAH/")], Sample.element "e3" []]) := by rfl
  obtain rfl := Option.some.inj (read.symm.trans elements)
  generalize deliveries : (dispatch (recording Sample.posting (Sample.mover 307)) (0, []) events).state.2 = all
    at arrive lengths
  rcases arrive with _ | ⟨a, _ | ⟨b, _ | ⟨c, ⟨⟩⟩⟩⟩
  obtain ⟨first, second, third⟩ : _ = 2 ∧ _ = 1 ∧ _ = 1 := by simpa using lengths
  refine ⟨events, _, _, _, made, deliveries, ⟨first, fun exchange mem posts => ?_⟩,
    ⟨second, fun exchange mem posts => ?_⟩, ⟨third, fun exchange mem posts => ?_⟩⟩
  · exact (a.1 exchange mem posts).json Sample.value rfl
      (.array (by simp [Json.FloatFree.integer, Json.FloatFree.string, Json.FloatFree.null]))
  · exact (((b.1 exchange mem posts).binary _ rfl [0, 1, 255]).1 rfl).symm
  · exact (c.1 exchange mem posts).empty rfl rfl

end Sender

end BusRelay
