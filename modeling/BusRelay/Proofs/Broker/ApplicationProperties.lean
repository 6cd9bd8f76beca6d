import BusRelay.Proofs.Broker.Receipt
import BusRelay.Proofs.Json.Accepted
import BusRelay.Proofs.Json.Reader
import BusRelay.Proofs.Json.RoundTrip
/-!
# The application's words

A message in hand has as properties what the headers of its response say that are the application's. Of the values of
one name those count that are visible text, and of these the last one (`get?_properties`). It is a value if it writes
one, and else a text (`propertyValue_iff`). Nothing else is a property, and no name has to do with another
(`received_properties`).
-/

namespace BusRelay

open Http (Response)
open Utf8 (Bytes)

/-! ## Visible text -/

namespace Http

/-- The octets are those of visible ASCII characters, of spaces and of tabs. -/
def IsVisible (octets : Bytes) : Prop := ∀ b ∈ octets, 32 ≤ b.toNat ∧ b.toNat ≤ 126 ∨ b.toNat = 9

instance (octets : Bytes) : Decidable (IsVisible octets) := inferInstanceAs (Decidable (∀ b ∈ octets, _))

theorem visibleText?_isSome {octets : Bytes} : (visibleText? octets).isSome = true ↔ IsVisible octets := by
  have visible (b : UInt8) : ((32 ≤ b && b < 127) || b == 9) = true ↔ 32 ≤ b.toNat ∧ b.toNat ≤ 126 ∨ b.toNat = 9 := by
    rw [Bool.or_eq_true, Bool.and_eq_true, decide_eq_true_eq, decide_eq_true_eq, beq_iff_eq, UInt8.le_iff_toNat_le,
      UInt8.lt_iff_toNat_lt, ← UInt8.toNat_inj]
    show 32 ≤ b.toNat ∧ b.toNat < 127 ∨ b.toNat = 9 ↔ _
    omega
  unfold visibleText? IsVisible
  simp only [Option.isSome_ite, List.all_eq_true, visible]

theorem bytes_of_visible {octets : Bytes} (visible : IsVisible octets) :
    Utf8.bytes (String.ofList (octets.map fun b => Char.ofNat b.toNat)) = octets := by
  have ascii (b : UInt8) (mem : b ∈ octets) : b.toNat < 128 := by
    have := visible b mem
    omega
  have code (b : UInt8) (mem : b ∈ octets) : (Char.ofNat b.toNat).toNat = b.toNat :=
    Utf8.toNat_ofNat_ascii (ascii b mem)
  rw [Utf8.bytes_ascii, List.map_map]
  · refine (List.map_congr_left fun b mem => ?_).trans (List.map_id octets)
    show (Char.ofNat b.toNat).toNat.toUInt8 = b
    rw [code b mem, Nat.toUInt8_eq, UInt8.ofNat_toNat]
  · intro c made
    obtain ⟨b, mem, rfl⟩ := List.mem_map.1 made
    rw [code b mem]
    exact ascii b mem

/-- The text of visible octets has just these octets. -/
theorem visibleText?_eq_some {octets : Bytes} {text : String} :
    visibleText? octets = some text ↔ IsVisible octets ∧ Utf8.bytes text = octets := by
  have written {text : String} (visible : IsVisible octets) (read : visibleText? octets = some text) :
      Utf8.bytes text = octets := by
    unfold visibleText? at read
    split at read
    · cases read
      exact bytes_of_visible visible
    · cases read
  constructor
  · intro read
    have visible : IsVisible octets := visibleText?_isSome.1 (Option.isSome_of_eq_some read)
    exact ⟨visible, written visible read⟩
  · rintro ⟨visible, same⟩
    obtain ⟨other, read⟩ := Option.isSome_iff_exists.1 (visibleText?_isSome.2 visible)
    rw [read, Utf8.bytes_injective (same.trans (written visible read).symm)]

end Http

/-! ## Values -/

namespace Json

/-- What is read as a value is the text of one, with blanks around it, that is nested no deeper than is read. -/
theorem isValue_of_decode? {text : Bytes} {value : Json} (read : decode? text = some value) :
    ∃ p : Padded, p.text = text ∧ IsValue maxDepth p.value := by
  obtain ⟨tree, after, whole, -, ends⟩ := decodeWith_ok (toOption_eq_some.1 read)
  obtain ⟨before, octets, blank, left, writes⟩ := (accepts _).value whole
  exact ⟨⟨before, octets, after.rest, blank, endOfDocument_ok ends⟩, left.symm, writes.value⟩

end Json

namespace Receiver

/-- The text is read as this value, of which it then is a text by the grammar; or it is not read as any, and is itself
the value. -/
inductive Means (text : String) : Json → Prop where
  | document {value : Json} (p : Json.Padded) (same : p.text = Utf8.bytes text)
      (grammar : Json.IsValue Json.maxDepth p.value) (read : Json.decode? (Utf8.bytes text) = some value) :
      Means text value
  | word (unread : Json.decode? (Utf8.bytes text) = none) : Means text (.string text)

theorem propertyValue_iff {text : String} {value : Json} : propertyValue text = value ↔ Means text value := by
  unfold propertyValue
  constructor
  · rintro rfl
    cases read : Json.decode? (Utf8.bytes text) with
    | none => exact .word read
    | some value =>
      obtain ⟨p, same, grammar⟩ := Json.isValue_of_decode? read
      exact .document p same grammar read
  · intro means
    cases means with
    | document _ _ _ read => rw [read, Option.getD_some]
    | word unread => rw [unread, Option.getD_none]

/-- What a value is printed as means that value. -/
theorem means_text {value : Json} (within : value.Within Json.maxDepth) (free : value.FloatFree) :
    Means value.text value.canonical := by
  rw [← propertyValue_iff, propertyValue, Json.decode?_text within free, Option.getD_some]

/-! ## Headers -/

/-- The header is the application's: no part of the exchange, and without the prefix of the broker's own. -/
structure OfApplication (name : String) : Prop where
  apart : name ∉ exchangeHeaders
  unmarked : ¬ "x-ms-".toList <+: name.toList

theorem isProperty_iff {name : String} : isProperty name = true ↔ OfApplication name := by
  rw [isProperty, Bool.and_eq_true, Bool.not_eq_true', Bool.not_eq_true', List.contains_eq_mem, decide_eq_false_iff_not,
    ← Bool.not_eq_true, List.isPrefixOf_iff_prefix]
  exact ⟨fun both => ⟨both.1, both.2⟩, fun both => ⟨both.apart, both.unmarked⟩⟩

/-- The last value of this name that is visible is this text. -/
def LastText (headers : List (String × Bytes)) (name text : String) : Prop :=
  ∃ before after, headers = before ++ (name, Utf8.bytes text) :: after ∧ Http.IsVisible (Utf8.bytes text) ∧
    ∀ header ∈ after, header.1 = name → ¬ Http.IsVisible header.2

/-- The properties are what the headers say: they have the names of those of the application's headers that are visible
somewhere, and each is what the last visible value of its name means. -/
structure Words (headers : List (String × Bytes)) (properties : Dict Json) : Prop where
  names : ∀ name, properties.contains name = true ↔
    OfApplication name ∧ ∃ octets, (name, octets) ∈ headers ∧ Http.IsVisible octets
  values : ∀ name value, properties.get? name = some value ↔
    OfApplication name ∧ ∃ text, LastText headers name text ∧ Means text value

section

variable {headers : List (String × Bytes)} {name : String}

/-- What a value says under a name, if it says anything. -/
def wordOf? (name : String) (octets : Bytes) : Option Json :=
  if isProperty name then (Http.visibleText? octets).map propertyValue else none

theorem properties_eq (headers : List (String × Bytes)) : properties headers =
    Dict.ofList (headers.filterMap fun header => (wordOf? header.1 header.2).map (header.1, ·)) := by
  unfold properties
  congr 2
  funext header
  obtain ⟨name, octets⟩ := header
  unfold wordOf?
  dsimp only
  split
  · rw [Option.map_map]
    rfl
  · rfl

theorem wordOf?_eq_some {octets : Bytes} {value : Json} : wordOf? name octets = some value ↔
    OfApplication name ∧ Http.IsVisible octets ∧ ∃ text, Utf8.bytes text = octets ∧ Means text value := by
  unfold wordOf?
  split
  · rename_i ours
    rw [and_iff_right (isProperty_iff.1 ours), Option.map_eq_some_iff]
    simp only [Http.visibleText?_eq_some, propertyValue_iff, and_assoc, exists_and_left]
  · rename_i others
    exact ⟨nofun, fun all => absurd (isProperty_iff.2 all.1) others⟩

theorem wordOf?_isSome {octets : Bytes} :
    (wordOf? name octets).isSome = true ↔ OfApplication name ∧ Http.IsVisible octets := by
  rw [Option.isSome_iff_exists]
  simp only [wordOf?_eq_some]
  constructor
  · rintro ⟨value, ours, visible, -⟩
    exact ⟨ours, visible⟩
  · rintro ⟨ours, visible⟩
    exact ⟨_, ours, visible, _, Http.bytes_of_visible visible, propertyValue_iff.1 rfl⟩

theorem wordOf?_eq_none {octets : Bytes} :
    wordOf? name octets = none ↔ ¬ (OfApplication name ∧ Http.IsVisible octets) := by
  rw [← wordOf?_isSome, Option.not_isSome_iff_eq_none]

theorem get?_properties {value : Json} : (properties headers).get? name = some value ↔
    OfApplication name ∧ ∃ text, LastText headers name text ∧ Means text value := by
  rw [properties_eq, Dict.get?_ofList, Entries.last?_filterMap]
  constructor
  · rintro ⟨before, octets, after, split, made, others⟩
    obtain ⟨ours, visible, text, rfl, means⟩ := wordOf?_eq_some.1 made
    refine ⟨ours, text, ⟨before, after, split, visible, ?_⟩, means⟩
    rintro ⟨_, later⟩ mem rfl seen
    exact wordOf?_eq_none.1 (others later mem) ⟨ours, seen⟩
  · rintro ⟨ours, text, ⟨before, after, split, visible, hidden⟩, means⟩
    refine ⟨before, _, after, split, wordOf?_eq_some.2 ⟨ours, visible, text, rfl, means⟩, ?_⟩
    intro later mem
    exact wordOf?_eq_none.2 fun both => hidden _ mem rfl both.2

theorem contains_properties : (properties headers).contains name = true ↔
    OfApplication name ∧ ∃ octets, (name, octets) ∈ headers ∧ Http.IsVisible octets := by
  rw [Dict.contains, properties_eq, Dict.get?_ofList, Option.isSome_iff_ne_none, ne_eq, Entries.last?_filterMap_eq_none]
  simp only [not_forall, ← ne_eq, ← Option.isSome_iff_ne_none, wordOf?_isSome, exists_prop]
  constructor
  · rintro ⟨octets, mem, ours, visible⟩
    exact ⟨ours, octets, mem, visible⟩
  · rintro ⟨ours, octets, mem, visible⟩
    exact ⟨octets, mem, ours, visible⟩

theorem words_properties (headers : List (String × Bytes)) : Words headers (properties headers) :=
  ⟨fun _ => contains_properties, fun _ _ => get?_properties⟩

/-- What is found under a name is told by the headers of that name. -/
theorem get?_properties_filter (headers : List (String × Bytes)) (name : String) :
    (properties (headers.filter fun header => header.1 = name)).get? name = (properties headers).get? name := by
  let word (header : String × Bytes) : Option (String × Json) := (wordOf? header.1 header.2).map (header.1, ·)
  have same : (headers.filter fun header => header.1 = name).filterMap word =
      (headers.filterMap word).filter fun entry => entry.1 = name := by
    rw [List.filterMap_filter, List.filter_filterMap]
    apply List.filterMap_congr
    rintro ⟨key, octets⟩ -
    dsimp only [word]
    cases wordOf? key octets <;> by_cases same : key = name <;> simp [same, Option.filter]
  rw [properties_eq, properties_eq, Dict.get?_ofList, Dict.get?_ofList, same]
  exact (Entries.last?_filter fun key => decide (key = name)).trans (if_pos (decide_eq_true rfl))

end

/-! ## Messages -/

section

variable {uri : String} {now : Instant} {response : Response} {l : Locked}

theorem locked_properties (made : locked uri now response = .ok l) :
    l.message.properties = properties response.headers := by
  unfold locked at made
  obtain ⟨p, -, made⟩ := bind_ok made
  dsimp only at made
  split at made
  · split at made
    · cases made
      rfl
    · cases made
      rfl
    · cases made
  · cases made

theorem received_headers (given : received uri now (.ok response) = .ok (some l)) :
    l.message.properties = properties response.headers := by
  unfold received at given
  dsimp only at given
  split at given
  · cases given
  · split at given
    · split at given
      · obtain ⟨held, made, same⟩ := map_ok given
        cases same
        exact locked_properties made
      · cases given
    · cases given

/-- **The application's words.** The properties of a message in hand have as names just those of the headers of its
response that are no part of the exchange, do not start with the broker's prefix and have a value of visible ASCII,
spaces and tabs. Each is what the last such value of its name means: what it is read as, if it is a document, and else
the value itself as a text. So the printed text of a value that can be read back means this value. Whatever other
headers there are, and of whatever other response, the same headers of one name make the same property. -/
theorem received_properties (given : received uri now (.ok response) = .ok (some l)) :
    Words response.headers l.message.properties ∧
    (∀ name (value : Json), OfApplication name → value.Within Json.maxDepth → value.FloatFree →
      LastText response.headers name value.text → l.message.properties.get? name = some value.canonical) ∧
    ∀ {uri' : String} {now' : Instant} {response' : Response} {l' : Locked},
      received uri' now' (.ok response') = .ok (some l') → ∀ name,
        response.headers.filter (fun header => header.1 = name) =
          response'.headers.filter (fun header => header.1 = name) →
        l.message.properties.get? name = l'.message.properties.get? name := by
  have same := received_headers given
  refine ⟨same ▸ words_properties response.headers, ?_, ?_⟩
  · intro name value ours within free last
    rw [same, get?_properties]
    exact ⟨ours, value.text, last, means_text within free⟩
  · intro uri' now' response' l' given' name alike
    rw [same, received_headers given', ← get?_properties_filter, alike, get?_properties_filter]

end

namespace Sample

/-- A message with a count, a note, a header that can be read in part only, and one of the broker's own. -/
def worded : Response where
  status := 201
  headers := [("brokerproperties", properties "m1"), ("count", Utf8.bytes "one"), ("x-ms-count", Utf8.bytes "9"),
    ("count", Utf8.bytes "7"), ("note", Utf8.bytes "as ever"), ("count", [0xFF]), ("mark", [0xFF])]

end Sample

/-- Of the counts the last one that is visible is a number; the note is a text, and the mark is nothing. -/
theorem received_properties_worded : ∃ l, received "q" .epoch (.ok Sample.worded) = .ok (some l) ∧
    l.message.properties.get? "count" = some (.number (.integer 7)) ∧
    l.message.properties.get? "note" = some (.string "as ever") ∧
    l.message.properties.contains "x-ms-count" = false ∧ l.message.properties.contains "mark" = false := by
  obtain ⟨l, given, -⟩ : ∃ l, received "q" .epoch (.ok Sample.worded) = .ok (some l) ∧ l.message.id.text = "m1" := by
    apply received_some
    decide +kernel
  obtain ⟨words, printed, -⟩ := received_properties given
  have count : OfApplication "count" := isProperty_iff.1 rfl
  have note : OfApplication "note" := isProperty_iff.1 rfl
  refine ⟨l, given, ?_, ?_, ?_, ?_⟩
  · have fits : (Json.Number.integer 7).Fits := by
      rintro n ⟨⟩
      constructor <;> decide
    apply printed "count" (.number (.integer 7)) count (.number _ fits) (.integer 7)
    exact ⟨Sample.worded.headers.take 3, Sample.worded.headers.drop 4, rfl, by decide +kernel, by decide +kernel⟩
  · refine (words.values _ _).2 ⟨note, "as ever", ?_, .word rfl⟩
    exact ⟨Sample.worded.headers.take 4, Sample.worded.headers.drop 5, rfl, by decide +kernel, by decide +kernel⟩
  · rw [← Bool.not_eq_true, words.names]
    exact fun both => both.1.unmarked (by decide)
  · rw [← Bool.not_eq_true, words.names]
    rintro ⟨-, octets, mem, visible⟩
    obtain rfl : octets = [0xFF] := by simpa [Sample.worded] using mem
    exact absurd visible (by decide +kernel)

end Receiver

end BusRelay
