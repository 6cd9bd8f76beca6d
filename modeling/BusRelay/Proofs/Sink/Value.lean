import BusRelay.Proofs.Codec.Percent
import BusRelay.Proofs.List
import BusRelay.Sink.Headers
/-!
# Values in headers

Any text can be the value of an attribute: what is written for it in a header is visible ASCII without quotes, it can
stand there, and it is read back octet by octet. So an event is never refused for a value of an attribute, but for a
name or for its content type alone (`encoded_values`).
-/

namespace BusRelay.EventHeaders

open Utf8 (Bytes)

/-! ## What is written for a value -/

theorem isPlain_iff {b : UInt8} : isPlain b = true ↔ 0x21 ≤ b ∧ b ≤ 0x7E ∧ b ≠ 0x22 ∧ b ≠ 37 := by
  simp only [isPlain, Bool.and_eq_true, decide_eq_true_eq, and_assoc]

/-- An octet that stands for itself is ASCII and no percent sign. -/
theorem readable_isPlain : Percent.Readable isPlain := by
  intro b plain
  obtain ⟨-, high, -, percent⟩ := isPlain_iff.1 plain
  have : b.toNat ≤ 0x7E := high
  exact ⟨by omega, percent⟩

/-- The octets of the value that a header carries. -/
def readValue (value : String) : Bytes := Percent.decode (Utf8.bytes value)

theorem readValue_encodeValue (value : String) : readValue (encodeValue value) = Utf8.bytes value :=
  Percent.decode_encode readable_isPlain value

theorem encodeValue_injective {a b : String} (same : encodeValue a = encodeValue b) : a = b :=
  Percent.encode_injective readable_isPlain same

/-- A visible octet of ASCII that is no quote. -/
def IsVisible (b : UInt8) : Prop := 0x21 ≤ b ∧ b ≤ 0x7E ∧ b ≠ 0x22

instance : DecidablePred IsVisible := fun b => inferInstanceAs (Decidable (0x21 ≤ b ∧ b ≤ 0x7E ∧ b ≠ 0x22))

theorem visible_encodeValue {value : String} {b : UInt8} (mem : b ∈ Utf8.bytes (encodeValue value)) :
    IsVisible b := by
  have digits : ∀ c ∈ Percent.upperDigits, IsVisible c.toNat.toUInt8 := forall_mem_of_all (by decide)
  rcases Percent.octet_of_encode readable_isPlain mem with plain | rfl | ⟨c, digit, rfl⟩
  · obtain ⟨low, high, quote, -⟩ := isPlain_iff.1 plain
    exact ⟨low, high, quote⟩
  · decide
  · exact digits c digit

theorem isValueOctet_of_visible {b : UInt8} (visible : IsVisible b) : Http.isValueOctet b = true := by
  obtain ⟨low, high, -⟩ := visible
  have low : 0x21 ≤ b.toNat := low
  have high : b.toNat ≤ 0x7E := high
  have above : 32 ≤ b := UInt8.le_iff_toNat_le.2 (by omega : 32 ≤ b.toNat)
  have other : b ≠ 127 := fun same => by
    rw [same] at high
    exact absurd high (by decide)
  simp [Http.isValueOctet, above, other]

/-- An encoded value can stand in a header, whatever the value. -/
theorem isHeaderValue_encodeValue (value : String) : Http.isHeaderValue (encodeValue value) = true :=
  List.all_eq_true.2 fun _ mem => isValueOctet_of_visible (visible_encodeValue mem)

/-! ## Why an event is refused -/

/-- Whether an attribute can be put is up to its name. -/
theorem putAll_cons (headers : Dict String) (name value : String) (rest : List (String × String)) :
    putAll headers ((name, value) :: rest) =
      if Http.isHeaderName ("ce-" ++ name) then putAll (headers.insert (headerName name) (encodeValue value)) rest
      else .error (.badName name) := by
  rw [putAll, if_pos (isHeaderValue_encodeValue value)]

theorem putAll_error {headers : Dict String} {entries : List (String × String)} {fault : Fault}
    (refused : putAll headers entries = .error fault) :
    ∃ name ∈ entries.map Prod.fst, Http.isHeaderName ("ce-" ++ name) = false ∧ fault = .badName name := by
  induction entries generalizing headers with
  | nil => cases refused
  | cons entry rest ih =>
    obtain ⟨name, value⟩ := entry
    rw [putAll_cons] at refused
    split at refused
    · obtain ⟨other, mem, bad⟩ := ih refused
      exact ⟨other, List.mem_cons_of_mem _ mem, bad⟩
    · rename_i bad
      cases refused
      exact ⟨name, List.mem_cons_self, by simpa using bad, rfl⟩

theorem putAll_ok_iff (headers : Dict String) {entries : List (String × String)} :
    (∃ after, putAll headers entries = .ok after) ↔
      ∀ name ∈ entries.map Prod.fst, Http.isHeaderName ("ce-" ++ name) = true := by
  induction entries generalizing headers with
  | nil => simp [putAll]
  | cons entry rest ih =>
    obtain ⟨name, value⟩ := entry
    rw [putAll_cons, List.map_cons, List.forall_mem_cons]
    split
    · rename_i fits
      rw [ih, and_iff_right fits]
    · rename_i bad
      simp [bad]

/-- An event is refused where its attributes are, or else for its content type. -/
theorem headers_error_iff {e : Event} {fault : Fault} : EventHeaders.headers e = .error fault ↔
    putAll {} (attributes e) = .error fault ∨ (∃ before, putAll {} (attributes e) = .ok before) ∧
      ∃ type, e.contentType = some type ∧ Http.isHeaderValue type = false ∧ fault = .badContentType := by
  cases put : putAll {} (attributes e) with
  | error first => simp [EventHeaders.headers, put, bind, Except.bind]
  | ok before =>
    simp only [EventHeaders.headers, put, bind, Except.bind]
    cases e.contentType with
    | none => simp [pure, Except.pure]
    | some type =>
      cases fits : Http.isHeaderValue type with
      | true => simp [fits, pure, Except.pure]
      | false =>
        simpa [fits, throw, throwThe, MonadExceptOf.throw] using eq_comm

/-- A name of an attribute can be no part of a header, or the content type no value of one. -/
def Unwritable (e : Event) : Prop :=
  (∃ name ∈ (attributes e).map Prod.fst, Http.isHeaderName ("ce-" ++ name) = false) ∨
    ∃ type, e.contentType = some type ∧ Http.isHeaderValue type = false

theorem exists_error_iff (e : Event) : (∃ fault, EventHeaders.headers e = .error fault) ↔ Unwritable e := by
  constructor
  · rintro ⟨fault, refused⟩
    rcases headers_error_iff.1 refused with put | ⟨-, type, given, bad, -⟩
    · obtain ⟨name, mem, bad, -⟩ := putAll_error put
      exact .inl ⟨name, mem, bad⟩
    · exact .inr ⟨type, given, bad⟩
  · intro unwritable
    cases put : putAll {} (attributes e) with
    | error fault => exact ⟨fault, headers_error_iff.2 (.inl put)⟩
    | ok before =>
      rcases unwritable with ⟨name, mem, bad⟩ | ⟨type, given, bad⟩
      · rw [(putAll_ok_iff {}).1 ⟨before, put⟩ name mem] at bad
        cases bad
      · exact ⟨_, headers_error_iff.2 (.inr ⟨⟨before, put⟩, type, given, bad, rfl⟩)⟩

theorem headers_ne_badValue (e : Event) (header : String) :
    EventHeaders.headers e ≠ .error (.badValue header) := by
  intro refused
  rcases headers_error_iff.1 refused with put | ⟨-, type, -, -, same⟩
  · obtain ⟨name, -, -, same⟩ := putAll_error put
    cases same
  · cases same

/-- **Values in headers.** What is written for a text is made of visible ASCII without the quote, two capital
hexadecimal digits stand behind every percent sign of it, and the octets of the text are read back from it; so no two
texts are written alike. It can always stand in a header. Therefore no event is refused for the value of an
attribute: it is refused just if one of its names can be no part of a header, or its content type no value. -/
theorem encoded_values :
    (∀ value, (∀ b ∈ Utf8.bytes (encodeValue value), 0x21 ≤ b ∧ b ≤ 0x7E ∧ b ≠ 0x22) ∧
      (∀ before after, (encodeValue value).toList = before ++ '%' :: after →
        ∃ high ∈ Percent.upperDigits, ∃ low ∈ Percent.upperDigits, ∃ rest, after = high :: low :: rest) ∧
      readValue (encodeValue value) = Utf8.bytes value ∧ Http.isHeaderValue (encodeValue value) = true) ∧
    Function.Injective encodeValue ∧
    ∀ e, (∀ header, EventHeaders.headers e ≠ .error (.badValue header)) ∧
      ((∃ fault, EventHeaders.headers e = .error fault) ↔ Unwritable e) := by
  refine ⟨fun value => ⟨fun b mem => visible_encodeValue mem, fun before after split => ?_,
    readValue_encodeValue value, isHeaderValue_encodeValue value⟩, fun a b => encodeValue_injective,
    fun e => ⟨headers_ne_badValue e, exists_error_iff e⟩⟩
  rw [encodeValue, Percent.encode, String.toList_ofList] at split
  exact Percent.escape_of_encodeBytes readable_isPlain split

namespace Sample

/-- An event with a percent sign, a line end and a quote in its id. -/
def unruly : Event := { id := "%\n\"", source := "queue", kind := "created", time := .epoch }

end Sample

/-- The percent sign of the id is itself escaped, and the line end does no harm. -/
theorem encoded_values_unruly : encodeValue Sample.unruly.id = "%25%0A%22" ∧
    (∃ high ∈ Percent.upperDigits, ∃ low ∈ Percent.upperDigits, ∃ rest, "0A%22".toList = high :: low :: rest) ∧
    readValue "%25%0A%22" = Utf8.bytes "%\n\"" ∧ ¬ Unwritable Sample.unruly ∧
    ∃ headers, EventHeaders.headers Sample.unruly = .ok headers := by
  have same : encodeValue Sample.unruly.id = "%25%0A%22" := rfl
  obtain ⟨values, -, events⟩ := encoded_values
  obtain ⟨-, escaped, back, -⟩ := values Sample.unruly.id
  have made : ∃ headers, EventHeaders.headers Sample.unruly = .ok headers := ⟨_, rfl⟩
  refine ⟨same, escaped "%25".toList _ rfl, same ▸ back, fun bad => ?_, made⟩
  obtain ⟨fault, refused⟩ := (events Sample.unruly).2.2 bad
  obtain ⟨headers, ok⟩ := made
  rw [ok] at refused
  cases refused

end BusRelay.EventHeaders
