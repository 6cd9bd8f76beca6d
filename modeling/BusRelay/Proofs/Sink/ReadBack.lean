import BusRelay.Proofs.Event.Validation
import BusRelay.Proofs.Sink.Headers
/-!
# Reading an event back from its headers

A valid event whose extensions are not called like its own attributes can be written in headers unless its
content type has a control character, and then every attribute is read back from the header of its name
(`headers_read_back`). Characters beyond ASCII do no harm to a content type (`headers_foreign`).
-/

namespace BusRelay

namespace EventHeaders

/-! ## Names and values of headers -/

/-- What the letters and digits of extension names are. -/
theorem isExtensionChar_iff {c : Char} : Event.isExtensionChar c = true ↔
    97 ≤ c.toNat ∧ c.toNat ≤ 122 ∨ 48 ≤ c.toNat ∧ c.toNat ≤ 57 := by
  simp [Event.isExtensionChar, Char.le_def, UInt32.le_iff_toNat_le]

theorem isPlainName_of_extension {name : String} (valid : Event.isExtensionName name = true) :
    IsPlainName name := by
  intro c mem
  simp only [Event.isExtensionName, Bool.and_eq_true, List.all_eq_true] at valid
  have char := isExtensionChar_iff.1 (valid.2 c mem)
  change decide (c.val ≥ 'A'.val ∧ c.val ≤ 'Z'.val) = false
  simp [UInt32.le_iff_toNat_le]
  omega

/-- The name of an extension can be part of a header. -/
theorem isHeaderName_of_extension {name : String} (valid : Event.isExtensionName name = true) :
    Http.isHeaderName ("ce-" ++ name) = true := by
  simp only [Event.isExtensionName, Bool.and_eq_true, List.all_eq_true, decide_eq_true_eq] at valid
  obtain ⟨⟨-, short⟩, chars⟩ := valid
  have first : "ce-".toList.all Http.isNameChar = true := by decide
  simp only [Http.isHeaderName, String.toList_append, List.length_append, List.all_eq_true, Bool.and_eq_true,
    decide_eq_true_eq, List.forall_mem_append]
  refine ⟨⟨?_, ?_⟩, List.all_eq_true.1 first, fun c mem => ?_⟩
  · intro none
    have lists := congrArg String.toList none
    simp [String.toList_append] at lists
  · have three : "ce-".toList.length = 3 := rfl
    have : Event.maxExtensionLength = 20 := rfl
    have : Http.maxNameLength = 65535 := rfl
    omega
  · have char := isExtensionChar_iff.1 (chars c mem)
    have alphanumeric : c.isAlphanum = true := by
      change (c.isUpper || (c.val ≥ 'a'.val && c.val ≤ 'z'.val) || (c.val ≥ '0'.val && c.val ≤ '9'.val)) = true
      simp [UInt32.le_iff_toNat_le]
      omega
    simp [Http.isNameChar, alphanumeric]

theorem isValueOctet_iff (b : UInt8) :
    Http.isValueOctet b = true ↔ b.toNat = 9 ∨ 0x20 ≤ b.toNat ∧ b.toNat ≠ 0x7F := by
  have octet (n : UInt8) : b = n ↔ b.toNat = n.toNat := UInt8.toNat_inj.symm
  simp [Http.isValueOctet, UInt8.le_iff_toNat_le, octet, or_comm]

/-- The octets of a character can stand in the value of a header, unless it is a control character. -/
theorem isValueOctet_charBytes (c : Char) : (∀ b ∈ Utf8.charBytes c, Http.isValueOctet b = true) ↔
    c = '\t' ∨ 0x20 ≤ c.toNat ∧ c.toNat ≠ 0x7F := by
  have tab : c = '\t' ↔ c.toNat = 9 := Char.toNat_inj.symm
  by_cases ascii : c.toNat < 128
  · have small : (c.toNat.toUInt8).toNat = c.toNat := Nat.mod_eq_of_lt (by omega)
    simp [Utf8.charBytes_ascii ascii, isValueOctet_iff, tab, small]
  · refine ⟨fun _ => .inr (by omega), fun _ b mem => (isValueOctet_iff b).2 (.inr ?_)⟩
    have := Utf8.le_of_mem_charBytes (by omega) mem
    omega

/-- A text is the value of a header unless it has a control character other than the tab. -/
theorem isHeaderValue_iff (value : String) : Http.isHeaderValue value = true ↔
    ∀ c ∈ value.toList, c = '\t' ∨ 0x20 ≤ c.toNat ∧ c.toNat ≠ 0x7F := by
  simp only [Http.isHeaderValue, Utf8.bytes_eq, List.all_eq_true, List.mem_flatMap, ← isValueOctet_charBytes]
  grind

/-- All attributes of a valid event have names for headers. -/
theorem isHeaderName_of_valid {e : Event} (valid : e.validate = .ok ()) :
    ∀ entry ∈ attributes e, Http.isHeaderName ("ce-" ++ entry.1) = true := by
  have core : ∀ name ∈ coreNames, Http.isHeaderName ("ce-" ++ name) = true := by decide +kernel
  rw [attributes_eq, List.forall_mem_append]
  exact ⟨fun entry mem => core entry.1 ((names_bare e).subset (List.mem_map_of_mem mem)),
    fun entry mem => isHeaderName_of_extension (e.isExtensionName_of_valid valid (List.mem_map_of_mem mem))⟩

end EventHeaders

/-- Two events have the same context: all attributes are equal, and the times at least as they are written. -/
structure Event.SameContext (a b : Event) : Prop where
  specVersion : a.specVersion = b.specVersion
  id : a.id = b.id
  source : a.source = b.source
  kind : a.kind = b.kind
  written : Rfc3339.text a.time = Rfc3339.text b.time
  time : a.time.IsRegular → b.time.IsRegular → a.time = b.time
  subject : a.subject = b.subject
  schema : a.schema = b.schema
  contentType : a.contentType = b.contentType
  extensions : a.extensions = b.extensions

namespace EventHeaders

/-- No extension has the name of an attribute of the event itself. -/
def Apart (e : Event) : Prop := ∀ name ∈ coreNames, e.extensions.get? name = none

/-- Attributes by name, with the content type, make the context of an event. -/
theorem sameContext {a b : Event} (apart : Apart a) (apart' : Apart b)
    (attributes : ∀ name, a.attribute? name = b.attribute? name) (contentType : a.contentType = b.contentType) :
    a.SameContext b := by
  have written : Rfc3339.text a.time = Rfc3339.text b.time := Option.some.inj (attributes "time")
  refine ⟨Option.some.inj (attributes "specversion"), Option.some.inj (attributes "id"),
    Option.some.inj (attributes "source"), Option.some.inj (attributes "type"), written,
    fun regular regular' => Rfc3339.text_injective regular regular' written, attributes "subject",
    attributes "dataschema", contentType, ?_⟩
  refine Dict.eq_of_get? fun name => ?_
  by_cases core : name ∈ coreNames
  · rw [apart name core, apart' name core]
  · rw [← attribute?_of_other a core, attributes, attribute?_of_other b core]

/-- The attributes of a valid event are read back from its headers. -/
theorem readValue_headers {e : Event} (valid : e.validate = .ok ()) (apart : Apart e) {headers : Dict String}
    (made : EventHeaders.headers e = .ok headers) (name : String) :
    (headers.get? ("ce-" ++ name)).map readValue = (e.attribute? name).map Utf8.bytes := by
  have plain : ∀ name ∈ e.extensions.entries.map Prod.fst, IsPlainName name :=
    fun name mem => isPlainName_of_extension (e.isExtensionName_of_valid valid mem)
  rw [get?_attribute made plain apart, Option.map_map]
  congr 1
  funext value
  exact readValue_encodeValue value

/-- **Reading back.** A valid event whose extensions are not called like its own attributes can be written in
headers just when its content type, if there is one, has no control characters but tabs. Then there is a
header for every attribute that is set, from which it is read back, the content type as it is, and no other
header. So two such events with the same headers have the same context. -/
theorem headers_read_back (e : Event) (valid : e.validate = .ok ()) (apart : Apart e) :
    ((∃ headers, EventHeaders.headers e = .ok headers) ↔ ∀ value, e.contentType = some value →
      ∀ c ∈ value.toList, c = '\t' ∨ 0x20 ≤ c.toNat ∧ c.toNat ≠ 0x7F) ∧
    ∀ headers, EventHeaders.headers e = .ok headers →
      (∀ name, (headers.get? ("ce-" ++ name)).map readValue = (e.attribute? name).map Utf8.bytes) ∧
      headers.get? "content-type" = e.contentType ∧
      (∀ header value, headers.get? header = some value →
        header = "content-type" ∨ ∃ name, header = "ce-" ++ name) ∧
      ∀ other : Event, other.validate = .ok () → Apart other → EventHeaders.headers other = .ok headers →
        e.SameContext other := by
  simp only [headers_ok_iff (isHeaderName_of_valid valid), isHeaderValue_iff, true_and]
  intro headers made
  refine ⟨readValue_headers valid apart made, get?_contentType made, fun header value => headers_names made, ?_⟩
  intro other valid' apart' made'
  refine sameContext apart apart' (fun name => ?_) ?_
  · have same := readValue_headers valid apart made name
    rw [readValue_headers valid' apart' made'] at same
    exact (Option.map_injective (fun _ _ => Utf8.bytes_injective) same).symm
  · rw [← get?_contentType made, get?_contentType made']

namespace Sample

/-- An event with blanks, quotes and letters beyond ASCII. -/
def quoting : Event where
  id := "e1"
  source := "queue"
  kind := "created"
  time := .epoch
  subject := some "50 % \"ß\""
  contentType := some "text/plain; charset=utf-8"
  extensions := Dict.ofList [("traceid", "a b")]

/-- An event whose content type is not in ASCII. -/
def foreign : Event :=
  { id := "e1", source := "queue", kind := "created", time := .epoch, contentType := some "€" }

end Sample

/-- What is quoted in a subject is read back. -/
theorem headers_read_back_quoting : Sample.quoting.validate = .ok () ∧ Apart Sample.quoting ∧
    ∃ headers, EventHeaders.headers Sample.quoting = .ok headers ∧
      (headers.get? "ce-subject").map readValue = some (Utf8.bytes "50 % \"ß\"") ∧
      (headers.get? "ce-traceid").map readValue = some (Utf8.bytes "a b") ∧
      (headers.get? "ce-dataschema").map readValue = none := by
  have valid : Sample.quoting.validate = .ok () := rfl
  have apart : Apart Sample.quoting := by
    unfold Apart
    decide
  obtain ⟨possible, back⟩ := headers_read_back Sample.quoting valid apart
  have visible : "text/plain; charset=utf-8".toList.all
      (fun c => c = '\t' ∨ 0x20 ≤ c.toNat ∧ c.toNat ≠ 0x7F) = true := by decide
  obtain ⟨headers, made⟩ := possible.2 (by
    rintro value ⟨⟩ c mem
    exact of_decide_eq_true (List.all_eq_true.1 visible c mem))
  obtain ⟨attributes, -⟩ := back headers made
  exact ⟨valid, apart, headers, made, attributes "subject", attributes "traceid", attributes "dataschema"⟩

/-- A content type beyond ASCII can be written in headers, so visible characters of ASCII, blanks and tabs are
not all that it may have. -/
theorem headers_foreign : Sample.foreign.validate = .ok () ∧ Apart Sample.foreign ∧
    ¬ ((∃ headers, EventHeaders.headers Sample.foreign = .ok headers) ↔
      ∀ value, Sample.foreign.contentType = some value →
        ∀ c ∈ value.toList, c = '\t' ∨ 0x20 ≤ c.toNat ∧ c.toNat < 0x7F) := by
  refine ⟨rfl, by unfold Apart; decide, fun iff => ?_⟩
  have made : ∃ headers, EventHeaders.headers Sample.foreign = .ok headers := ⟨_, rfl⟩
  exact absurd (iff.1 made "€" rfl '€' (by decide)) (by decide)

end EventHeaders

end BusRelay
