import BusRelay.Conversion.Processor
import BusRelay.Proofs.Codec.Base64
import BusRelay.Proofs.Dict
/-!
# What the event of a message tells of it

The event of a message tells everything that is said about the message: no two messages have the same one that differ
in anything but their bodies (`event_eq_iff`). Of bodies that are no documents it tells the octets, but for a text that
happens to be the Base64 of octets that are no text (`bodyValue_eq_iff`).
-/

namespace BusRelay

/-- Messages of which the same is said, whatever their bodies are. -/
structure Message.SameButBody (m m' : Message) : Prop where
  id : m.id = m'.id
  contentType : m.contentType = m'.contentType
  correlationId : m.correlationId = m'.correlationId
  label : m.label = m'.label
  sessionId : m.sessionId = m'.sessionId
  deliveryCount : m.deliveryCount = m'.deliveryCount
  sequenceNumber : m.sequenceNumber = m'.sequenceNumber
  enqueuedTime : m.enqueuedTime = m'.enqueuedTime
  properties : m.properties = m'.properties

theorem Json.optionalText_inj {s t : Option String} : Json.optionalText s = Json.optionalText t ↔ s = t := by
  cases s <;> cases t <;> simp [Json.optionalText]

theorem Json.natural_inj {n k : Nat} : Json.natural n = Json.natural k ↔ n = k := by
  rw [Json.natural, Json.natural, Json.number.injEq, Json.Number.integer.injEq, Int.ofNat_inj]

theorem Base64.encode_inj {bs bs' : Utf8.Bytes} : Base64.encode bs = Base64.encode bs' ↔ bs = bs' :=
  Base64.encode_eq_iff (Base64.decode_encode bs') bs

namespace Wrap

/-! ## Bodies -/

section

variable {body body' : Utf8.Bytes}

/-- The text that a body is shown as if it is no document. -/
def bodyText (body : Utf8.Bytes) : String := (Utf8.text? body).getD (Base64.encode body)

theorem bodyValue_unread (unread : Json.decode? body = none) : bodyValue body = .string (bodyText body) := by
  unfold bodyValue bodyText
  rw [unread]
  cases Utf8.text? body <;> rfl

theorem bodyText_of_text (text : (Utf8.text? body).isSome = true) : Utf8.bytes (bodyText body) = body := by
  obtain ⟨s, read⟩ := Option.isSome_iff_exists.1 text
  rw [bodyText, read, Option.getD_some]
  exact Utf8.bytes_of_text? read

theorem bodyText_of_octets (octets : Utf8.text? body = none) : bodyText body = Base64.encode body := by
  rw [bodyText, octets, Option.getD_none]

/-- One body is a text, the other one none, and the text is the Base64 of the octets. -/
def Spells (body body' : Utf8.Bytes) : Prop := Utf8.text? body' = none ∧ body = Utf8.bytes (Base64.encode body')

theorem Spells.same (spells : Spells body body') : bodyText body = bodyText body' := by
  obtain ⟨octets, rfl⟩ := spells
  rw [bodyText_of_octets octets, bodyText, Utf8.text?_bytes, Option.getD_some]

theorem bodyText_eq_iff : bodyText body = bodyText body' ↔ body = body' ∨ Spells body body' ∨ Spells body' body := by
  constructor
  · intro same
    by_cases text : (Utf8.text? body).isSome = true
    · by_cases text' : (Utf8.text? body').isSome = true
      · left
        rw [← bodyText_of_text text, same, bodyText_of_text text']
      · have octets' : Utf8.text? body' = none := Option.not_isSome_iff_eq_none.1 text'
        right; left
        exact ⟨octets', by rw [← bodyText_of_octets octets', ← same, bodyText_of_text text]⟩
    · have octets : Utf8.text? body = none := Option.not_isSome_iff_eq_none.1 text
      by_cases text' : (Utf8.text? body').isSome = true
      · right; right
        exact ⟨octets, by rw [← bodyText_of_octets octets, same, bodyText_of_text text']⟩
      · have octets' : Utf8.text? body' = none := Option.not_isSome_iff_eq_none.1 text'
        left
        rwa [bodyText_of_octets octets, bodyText_of_octets octets', Base64.encode_inj] at same
  · rintro (rfl | spells | spells)
    · rfl
    · exact spells.same
    · exact spells.same.symm

/-- Bodies that are no documents are shown alike if they are equal, or if one is the Base64 of the other's octets. -/
theorem bodyValue_eq_iff (unread : Json.decode? body = none) (unread' : Json.decode? body' = none) :
    bodyValue body = bodyValue body' ↔ body = body' ∨ Spells body body' ∨ Spells body' body := by
  rw [bodyValue_unread unread, bodyValue_unread unread', Json.string.injEq, bodyText_eq_iff]

/-- What spells another body is a text, and the other one is none. -/
theorem Spells.apart (spells : Spells body body') :
    ¬ ((Utf8.text? body).isSome = true ↔ (Utf8.text? body').isSome = true) := by
  obtain ⟨octets, rfl⟩ := spells
  rw [octets, Utf8.text?_bytes]
  simp

end

/-! ## Members -/

section

variable {m m' : Message}

theorem nodup_members (m : Message) : ((members m).map Prod.fst).Nodup := by
  show ["ID", "ContentType", "CorrelationID", "Label", "SessionID", "DeliveryCount", "SequenceNumber", "EnqueuedTime",
    "UserProperties", "Data"].Nodup
  decide

/-- Payloads that are equal have the same members. -/
theorem get?_members_of_payload (same : payload m = payload m') (name : String) :
    (members m).get? name = (members m').get? name := by
  have sorted : (members m).sorted = (members m').sorted := Json.object.inj same
  rw [← Entries.last?_eq_get? (nodup_members m), ← Entries.last?_eq_get? (nodup_members m'), ← Entries.get?_sorted,
    ← Entries.get?_sorted, sorted]

/-- A time that is given is told from none by the payload, and its worth by the event. -/
theorem enqueuedTime_of_event (time : m.eventTime = m'.eventTime)
    (given : Json.optionalText (m.enqueuedTime.map Rfc3339.textWithOffset) =
      Json.optionalText (m'.enqueuedTime.map Rfc3339.textWithOffset)) : m.enqueuedTime = m'.enqueuedTime := by
  rw [Json.optionalText_inj] at given
  unfold Message.eventTime at time
  generalize m.enqueuedTime = t at *
  generalize m'.enqueuedTime = t' at *
  cases t <;> cases t' <;> simp_all

theorem sameButBody_of_event {source source' : String} (same : event source m = event source' m') :
    m.SameButBody m' ∧ bodyValue m.body = bodyValue m'.body := by
  unfold event at same
  simp only [Event.mk.injEq, Option.some.injEq, Payload.json.injEq] at same
  obtain ⟨-, id, -, -, time, -, -, -, payload, -⟩ := same
  have held := get?_members_of_payload payload
  refine ⟨?_, ?_⟩
  · constructor
    case id => exact Identifier.ext id
    case contentType => simpa [members, Entries.get?, Json.optionalText_inj] using held "ContentType"
    case correlationId => simpa [members, Entries.get?, Json.optionalText_inj] using held "CorrelationID"
    case label => simpa [members, Entries.get?, Json.optionalText_inj] using held "Label"
    case sessionId => simpa [members, Entries.get?, Json.optionalText_inj] using held "SessionID"
    case deliveryCount => simpa [members, Entries.get?, Json.natural_inj] using held "DeliveryCount"
    case sequenceNumber =>
      have number := held "SequenceNumber"
      cases given : m.sequenceNumber <;> cases given' : m'.sequenceNumber <;>
        simp [members, Entries.get?, given, given'] at number ⊢
      exact number
    case enqueuedTime =>
      apply enqueuedTime_of_event time
      simpa [members, Entries.get?] using held "EnqueuedTime"
    case properties =>
      apply Dict.ext
      simpa [members, Entries.get?] using held "UserProperties"
  · simpa [members, Entries.get?] using held "Data"

/-- Events are equal if all is equal that is said of their messages, and if the bodies are shown alike. -/
theorem event_eq_iff {source source' : String} : event source m = event source' m' ↔
    source = source' ∧ m.SameButBody m' ∧ bodyValue m.body = bodyValue m'.body := by
  constructor
  · intro same
    exact ⟨congrArg Event.source same, sameButBody_of_event same⟩
  · rintro ⟨rfl, same, shown⟩
    unfold event payload members subject Message.eventTime
    rw [same.id, same.contentType, same.correlationId, same.label, same.sessionId, same.deliveryCount,
      same.sequenceNumber, same.enqueuedTime, same.properties, shown]

end

/-- **The event determines the message.** Two messages, from wherever they are, come to the same events just if they
come from the same source, the same is said of them in every field, and their bodies are shown alike. So if they come to
the same events and neither body is a document, the bodies are equal, or one is the Base64 text of the other, which is
no text; they are equal if both are texts or neither is. -/
theorem wrap_determines (source source' : String) (m m' : Message) :
    (Conversion.wrap.processor source m = Conversion.wrap.processor source' m' ↔
      source = source' ∧ m.SameButBody m' ∧ bodyValue m.body = bodyValue m'.body) ∧
    (Conversion.wrap.processor source m = Conversion.wrap.processor source' m' →
      Json.decode? m.body = none → Json.decode? m'.body = none →
      (m.body = m'.body ∨ Spells m.body m'.body ∨ Spells m'.body m.body) ∧
      (((Utf8.text? m.body).isSome = true ↔ (Utf8.text? m'.body).isSome = true) → m.body = m'.body)) := by
  have determines : Conversion.wrap.processor source m = Conversion.wrap.processor source' m' ↔
      source = source' ∧ m.SameButBody m' ∧ bodyValue m.body = bodyValue m'.body := by
    rw [← event_eq_iff]
    show Except.ok [event source m] = Except.ok [event source' m'] ↔ _
    rw [Except.ok.injEq, List.cons.injEq, and_iff_left rfl]
  refine ⟨determines, ?_⟩
  intro same unread unread'
  have bodies := (bodyValue_eq_iff unread unread').1 (determines.1 same).2.2
  refine ⟨bodies, fun alike => ?_⟩
  rcases bodies with equal | spells | spells
  · exact equal
  · exact absurd alike spells.apart
  · exact absurd alike.symm spells.apart

namespace Sample

/-- A message without a time, with this body. -/
def timeless (body : Utf8.Bytes) : Message := { id := ⟨"m", by decide⟩, body }

end Sample

/-- A text that is the Base64 of octets comes to the same event as these. But other octets do not, nor does a message
of the start of 1970, which is told from one without a time. -/
theorem wrap_determines_octets :
    Conversion.wrap.processor "q" (Sample.timeless (Utf8.bytes "/w==")) =
      Conversion.wrap.processor "q" (Sample.timeless [0xFF]) ∧
    Json.decode? (Utf8.bytes "/w==") = none ∧ Json.decode? [0xFF] = none ∧ Json.decode? [0xFE] = none ∧
    Spells (Utf8.bytes "/w==") [0xFF] ∧
    Conversion.wrap.processor "q" (Sample.timeless [0xFF]) ≠ Conversion.wrap.processor "q" (Sample.timeless [0xFE]) ∧
    Conversion.wrap.processor "q" (Sample.timeless []) ≠
      Conversion.wrap.processor "q" { Sample.timeless [] with enqueuedTime := some .epoch } := by
  have same : Conversion.wrap.processor "q" (Sample.timeless (Utf8.bytes "/w==")) =
      Conversion.wrap.processor "q" (Sample.timeless [0xFF]) :=
    (wrap_determines "q" "q" _ _).1.2 ⟨rfl, ⟨rfl, rfl, rfl, rfl, rfl, rfl, rfl, rfl, rfl⟩, rfl⟩
  have spells : Spells (Utf8.bytes "/w==") [0xFF] := by
    rcases ((wrap_determines "q" "q" _ _).2 same rfl rfl).1 with equal | spells | ⟨none, -⟩
    · cases equal
    · exact spells
    · cases none
  refine ⟨same, rfl, rfl, rfl, spells, ?_, ?_⟩
  · intro same
    have equal := ((wrap_determines "q" "q" _ _).2 same rfl rfl).2 (by decide)
    cases equal
  · intro same
    cases ((wrap_determines "q" "q" _ _).1.1 same).2.1.enqueuedTime

end Wrap

end BusRelay
