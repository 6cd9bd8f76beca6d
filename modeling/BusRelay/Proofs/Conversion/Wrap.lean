import BusRelay.Conversion.Processor
import BusRelay.Proofs.Handling.Settlement
import BusRelay.Proofs.Http.Preparation
import BusRelay.Proofs.Sink.ReadBack
import BusRelay.Sink.Sender
/-!
# Messages as events are never refused

Whatever a message holds, the event that carries it is valid, all of its attributes can be written in headers,
and a request can be made of it. So only the sink and the broker can keep its message from being settled
(`wrapped_never_refused`).
-/

namespace BusRelay

/-! ## Headers of plain attributes -/

namespace EventHeaders

/-- The header of an attribute and its value. -/
def written (entry : String × String) : String × String := ("ce-" ++ entry.1, encodeValue entry.2)

theorem putAll_plain {entries : List (String × String)}
    (names : ∀ entry ∈ entries, Http.isHeaderName ("ce-" ++ entry.1) = true ∧ IsPlainName entry.1)
    (before : Dict String) : putAll before entries =
      .ok ((entries.map written).foldl (fun d entry => d.insert entry.1 entry.2) before) := by
  induction entries generalizing before with
  | nil => rfl
  | cons entry rest ih =>
    obtain ⟨name, value⟩ := entry
    obtain ⟨fits, plain⟩ := names (name, value) List.mem_cons_self
    rw [putAll_cons, if_pos fits, headerName_of_plain plain,
      ih fun other mem => names other (List.mem_cons_of_mem _ mem)]
    rfl

/-- The headers of an event whose names have no capital letters: one for each attribute, and the content
type. -/
theorem headers_of_plain {e : Event} {value : String}
    (names : ∀ entry ∈ attributes e, Http.isHeaderName ("ce-" ++ entry.1) = true ∧ IsPlainName entry.1)
    (type : e.contentType = some value) (fits : Http.isHeaderValue value = true) :
    EventHeaders.headers e = .ok (Dict.ofList ((attributes e).map written ++ [("content-type", value)])) := by
  unfold EventHeaders.headers
  rw [putAll_plain names, type]
  change (if Http.isHeaderValue value = true then _ else _) = _
  rw [if_pos fits, Dict.ofList, List.foldl_append]
  rfl

/-- All values of such headers can stand there. -/
theorem isHeaderValue_written {entries : List (String × String)} {value : String}
    (fits : Http.isHeaderValue value = true) :
    ∀ header ∈ (Dict.ofList (entries.map written ++ [("content-type", value)])).entries,
      Http.isHeaderValue header.2 = true := by
  intro header mem
  rw [Dict.entries_ofList] at mem
  rcases List.mem_append.1 (Entries.mem_of_mem_sorted mem) with put | type
  · obtain ⟨entry, -, rfl⟩ := List.mem_map.1 put
    exact isHeaderValue_encodeValue entry.2
  · obtain rfl := List.mem_singleton.1 type
    exact fits

end EventHeaders

namespace Wrap

variable {source : String} (m : Message)

/-! ## The event of a message -/

/-- A subject is a label that is not empty. -/
theorem subject_eq : subject m = m.label.filter (· ≠ "") := by
  unfold subject
  split
  · rename_i empty
    rw [empty]
    rfl
  · rename_i other
    cases given : m.label with
    | none => rfl
    | some label =>
      have filled : label ≠ "" := by
        rintro rfl
        exact other given
      exact (Option.filter_some_pos (by simpa using filled)).symm

/-- The event of a message keeps all rules, whatever the message holds. -/
theorem event_valid (named : source ≠ "") : (event source m).validate = .ok () := by
  have subject : Event.emptyTextReason (subject m) = none := by
    rw [subject_eq]
    cases m.label with
    | none => rfl
    | some label =>
      by_cases empty : label = ""
      · simp [empty, Event.emptyTextReason]
      · simp [empty, Event.emptyTextReason]
  refine Event.validate_ok_iff.2 fun entry mem => ?_
  have core : entry ∈ (event source m).coreReasons := by
    rcases List.mem_append.1 mem with core | extension
    · exact core
    · cases extension
  simp only [Event.coreReasons, List.mem_cons, List.not_mem_nil, or_false] at core
  rcases core with rfl | rfl | rfl | rfl | rfl | rfl | rfl
  · rfl
  · exact if_neg m.id.nonempty
  · exact if_neg named
  · rfl
  · exact subject
  · rfl
  · rfl

/-- The attributes of the event of a message. -/
theorem attributes_event : EventHeaders.attributes (event source m) =
    [("specversion", formatVersion), ("id", m.id.text), ("source", source), ("type", eventKind),
      ("time", Rfc3339.text m.eventTime)] ++ (m.label.filter (· ≠ "")).toList.map (("subject", ·)) := by
  rw [← subject_eq]
  unfold EventHeaders.attributes event
  cases subject m <;> rfl

/-- The headers of the event of a message. -/
def headers (source : String) (m : Message) : Dict String :=
  Dict.ofList <|
    [("ce-specversion", EventHeaders.encodeValue formatVersion), ("ce-id", EventHeaders.encodeValue m.id.text),
      ("ce-source", EventHeaders.encodeValue source), ("ce-type", EventHeaders.encodeValue eventKind),
      ("ce-time", EventHeaders.encodeValue (Rfc3339.text m.eventTime))] ++
    (m.label.filter (· ≠ "")).toList.map (fun label => ("ce-subject", EventHeaders.encodeValue label)) ++
    [("content-type", "application/json")]

theorem headers_eq : headers source m = Dict.ofList
    ((EventHeaders.attributes (event source m)).map EventHeaders.written ++
      [("content-type", "application/json")]) := by
  rw [attributes_event, List.map_append, List.map_map]
  rfl

theorem isHeaderValue_type : Http.isHeaderValue "application/json" = true := by
  decide +kernel

/-- The event of a message can be written in headers, whatever the message holds. -/
theorem headers_event (named : source ≠ "") :
    EventHeaders.headers (event source m) = .ok (headers source m) := by
  have plain : ∀ name ∈ EventHeaders.coreNames, EventHeaders.IsPlainName name := by decide
  have names : ∀ entry ∈ EventHeaders.attributes (event source m),
      Http.isHeaderName ("ce-" ++ entry.1) = true ∧ EventHeaders.IsPlainName entry.1 := by
    intro entry mem
    have among : entry.1 ∈ EventHeaders.coreNames :=
      (EventHeaders.names_bare (event source m)).subset (List.mem_map_of_mem mem)
    exact ⟨EventHeaders.isHeaderName_of_valid (event_valid m named) entry mem, plain entry.1 among⟩
  rw [headers_eq]
  exact EventHeaders.headers_of_plain names rfl isHeaderValue_type

/-- A request can be made of the event of a message, for every target that requests can be made for. -/
theorem prepare_request {target : Url} (requestable : Http.isRequestable target.withoutUser = true) :
    ∃ first, Http.prepare (Sender.request target (headers source m) (event source m)) = .ok first := by
  refine Http.prepare_ok ?_ requestable
  intro header mem
  have put : header ∈ (headers source m).entries := mem
  rw [headers_eq] at put
  exact EventHeaders.isHeaderValue_written isHeaderValue_type header put

/-! ## Handling -/

/-- The sink is asked for the one event of a message, as it is. -/
theorem exchange_event {σ : Type} (sink : Sink σ) (state : σ) (named : source ≠ "") :
    Sink.exchange sink state [event source m] = [(event source m, (sink state (event source m)).1)] := by
  unfold Sink.exchange
  rw [Event.prepare_of_valid (event_valid m named)]
  rfl

/-- A message whose one event the sink was sent ends as the sink and the broker answer. -/
theorem handle_event {σ : Type} (sink : Sink σ) (state : σ) (completion : CompletionAnswer)
    (named : source ≠ "") :
    let handled := handle (Conversion.wrap.processor source) sink state (some ⟨m, completion⟩)
    match (sink state (event source m)).1 with
    | .ok () => handled.result = completionResult m.id completion ∧
        handled.calls = [.sent (event source m) (.ok ()), .completed m.id completion]
    | .error fault => handled.result = .error (.undelivered [⟨m.id.text, fault⟩]) ∧
        handled.calls = [.sent (event source m) (.error fault)] := by
  intro handled
  have made : Conversion.wrap.processor source (Delivery.mk m completion).message = .ok [event source m] := rfl
  obtain ⟨result, calls, -⟩ := handle_processed _ sink state made
  rw [exchange_event m sink state named] at result calls
  have sends : ∀ answer, Exchange.sends [(event source m, answer)] = [.sent (event source m) answer] := by
    intro answer
    unfold Exchange.sends Exchange.prepared
    rw [List.map_singleton, Event.prepare_of_valid (event_valid m named)]
    rfl
  rw [sends] at calls
  cases answered : (sink state (event source m)).1 with
  | error fault =>
    rw [answered] at result calls
    exact ⟨result, calls⟩
  | ok taken =>
    rw [answered] at result calls
    exact ⟨result, calls⟩

/-- **A message as an event is never refused.** Whatever a message holds, one event is made of it, with the
name and the time of the message and the given source. It keeps all rules, so that it is sent as it is, it
has just the headers of its attributes and of the type of its payload, and a request can be made of it. So
how the message ends is told by the answers of the sink and of the broker alone. -/
theorem wrapped_never_refused (source : String) (named : source ≠ "") (m : Message) :
    ∃ e, Conversion.wrap.processor source m = .ok [e] ∧
      e.id = m.id.text ∧ e.source = source ∧ e.time = m.enqueuedTime.getD .epoch ∧
      e.validate = .ok () ∧ e.prepare = (e, []) ∧ EventHeaders.headers e = .ok (headers source m) ∧
      (∀ target : Url, Http.isRequestable target.withoutUser = true →
        ∃ first, Http.prepare (Sender.request target (headers source m) e) = .ok first) ∧
      ∀ (σ : Type) (sink : Sink σ) (state : σ) (completion : CompletionAnswer),
        let handled := handle (Conversion.wrap.processor source) sink state (some ⟨m, completion⟩)
        match (sink state e).1 with
        | .ok () => handled.result = completionResult m.id completion ∧
            handled.calls = [.sent e (.ok ()), .completed m.id completion]
        | .error fault => handled.result = .error (.undelivered [⟨m.id.text, fault⟩]) ∧
            handled.calls = [.sent e (.error fault)] := by
  have valid := event_valid m named
  refine ⟨event source m, rfl, rfl, rfl, rfl, valid, Event.prepare_of_valid valid, headers_event m named, ?_, ?_⟩
  · intro target requestable
    exact prepare_request m requestable
  · intro σ sink state completion
    exact handle_event m sink state completion named

namespace Sample

/-- A message with control characters, an empty label and a body that is no text. -/
def hostile : Message where
  id := ⟨"m\x00\r\n\"é", by decide⟩
  body := [0xFF, 0x5B]
  contentType := some "\n"
  label := some ""
  properties := Dict.ofList [("ce-id", .array [.object [("", .null)]])]

/-- Takes every event. -/
def taker : Sink Unit := fun _ _ => (.ok (), ())

end Sample

/-- Control characters in the name of a message do no harm, nor does a body that is no text. -/
theorem wrapped_never_refused_hostile : "queue" ≠ "" ∧
    ∃ e, Conversion.wrap.processor "queue" Sample.hostile = .ok [e] ∧ e.validate = .ok () ∧
      EventHeaders.headers e = .ok (headers "queue" Sample.hostile) ∧
      (headers "queue" Sample.hostile).get? "ce-id" = some "m%00%0D%0A%22%C3%A9" ∧
      (headers "queue" Sample.hostile).get? "ce-subject" = none ∧
      (handle (Conversion.wrap.processor "queue") Sample.taker () (some ⟨Sample.hostile, .ok ()⟩)).result =
        .ok () := by
  have named : "queue" ≠ "" := by decide
  obtain ⟨e, made, -, -, -, valid, -, written, -, handled⟩ :=
    wrapped_never_refused "queue" named Sample.hostile
  have name : (headers "queue" Sample.hostile).get? "ce-id" = some "m%00%0D%0A%22%C3%A9" := by
    decide +kernel
  have none : (headers "queue" Sample.hostile).get? "ce-subject" = none := by
    decide +kernel
  exact ⟨named, e, made, valid, written, name, none, (handled Unit Sample.taker () (.ok ())).1⟩

end Wrap

end BusRelay
