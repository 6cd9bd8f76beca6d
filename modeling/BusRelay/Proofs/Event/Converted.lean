import BusRelay.Proofs.Codec.Base64
import BusRelay.Proofs.Event.Members
import BusRelay.Proofs.Json.Reader
/-!
# Conversion without loss

What an object of distinct members becomes is said member by member (`Converts`), and this is all that ever becomes
of it (`converted_without_loss`): the event's own members stay as they are, a source or time that is missing is filled
in, and of the other members each one is an extension. What cannot stay what it is makes no event at all (`Refused`).
-/

namespace BusRelay

open Json (Tree Fault)

namespace StructuredEvent

/-- What is given, or a default if nothing is. -/
inductive Filled {α : Type} (Means : Json → α → Prop) (default : α) : Option Json → α → Prop where
  | missing : Filled Means default none default
  | given {value : Json} {a : α} (means : Means value a) : Filled Means default (some value) a

/-- The payload that a value and a Base64 text bring. -/
inductive Carried : (value encoded : Option Json) → Option Payload → Prop where
  | nothing : Carried none none none
  | value (value : Json) : Carried (some value) none (some (.json value.canonical))
  | octets (octets : Utf8.Bytes) :
      Carried none (some (.string (Base64.encode octets))) (some (.binary octets))

/-- The text of an extension. -/
inductive Scalar : Json → String → Prop where
  | string (text : String) : Scalar (.string text) text
  | number (n : Json.Number) : Scalar (.number n) (Json.number n).text
  | bool (value : Bool) : Scalar (.bool value) (Json.bool value).text

/-- What becomes of an object of these members, with a source and a time for one that gives none. -/
structure Converts (members : Entries Json) (source : String) (time : Instant) (event : Event) : Prop where
  specVersion : members.get? "specversion" = some (.string event.specVersion)
  id : members.get? "id" = some (.string event.id)
  kind : members.get? "type" = some (.string event.kind)
  subject : (Json.object members).given? "subject" = event.subject.map .string
  schema : (Json.object members).given? "dataschema" = event.schema.map .string
  contentType : (Json.object members).given? "datacontenttype" = event.contentType.map .string
  source : Filled Json.IsText source ((Json.object members).given? "source") event.source
  time : Filled Json.IsInstant time ((Json.object members).given? "time") event.time
  payload : Carried ((Json.object members).given? "data") ((Json.object members).given? "data_base64") event.payload
  /-- None of the event's own members is an extension. -/
  own : ∀ name ∈ coreNames, event.extensions.get? name = none
  /-- Every other member is, and nothing else. -/
  others : ∀ name ∉ coreNames, Option.Rel Scalar (members.get? name) (event.extensions.get? name)

/-- Why an object of these members is no event. -/
inductive Refused (members : Entries Json) : Prop where
  | incomplete {name : String} (needed : name ∈ ["specversion", "id", "type"])
      (lacks : ∀ text, members.get? name ≠ some (.string text))
  | twoPayloads {value encoded : Json} (given : (Json.object members).given? "data" = some value)
      (given' : (Json.object members).given? "data_base64" = some encoded)
  | notBase64 {encoded : Json} (given : (Json.object members).given? "data_base64" = some encoded)
      (foreign : ∀ octets, encoded ≠ .string (Base64.encode octets))
  | nested {name : String} {value : Json} (other : name ∉ coreNames) (held : members.get? name = some value)
      (nested : (∃ items, value = .array items) ∨ ∃ inner, value = .object inner)

variable {members : Entries Json} {source : String} {time : Instant} {event : Event}

theorem Refused.not_converts (refused : Refused members) : ¬ Converts members source time event := by
  intro converts
  cases refused with
  | incomplete needed lacks =>
    simp only [List.mem_cons, List.not_mem_nil, or_false] at needed
    rcases needed with rfl | rfl | rfl
    · exact lacks _ converts.specVersion
    · exact lacks _ converts.id
    · exact lacks _ converts.kind
  | twoPayloads given given' =>
    have carried := converts.payload
    rw [given, given'] at carried
    cases carried
  | notBase64 given foreign =>
    have carried := converts.payload
    rw [given] at carried
    generalize (Json.object members).given? "data" = value? at carried
    generalize event.payload = payload at carried
    cases carried with
    | octets octets => exact foreign octets rfl
  | nested other held nested =>
    have rel := converts.others _ other
    rw [held] at rel
    generalize event.extensions.get? _ = text? at rel
    rcases nested with ⟨items, rfl⟩ | ⟨inner, rfl⟩
    · rcases rel with ⟨⟨⟩⟩
    · rcases rel with ⟨⟨⟩⟩

/-! ## One field at a time -/

theorem isText_rel_iff {value? : Option Json} {text? : Option String} :
    Option.Rel Json.IsText value? text? ↔ value? = text?.map Json.string := by
  constructor
  · rintro (is | _)
    · exact congrArg some is
    · rfl
  · rintro rfl
    cases text? with
    | none => exact .none
    | some text => exact .some rfl

/-- A default is filled in for what is missing. -/
theorem filled_iff {α : Type} {Means : Json → α → Prop} {default a : α} {value? : Option Json} :
    (∃ a?, Option.Rel Means value? a? ∧ a?.getD default = a) ↔ Filled Means default value? a := by
  constructor
  · rintro ⟨_, means | _, rfl⟩
    · exact .given means
    · exact .missing
  · rintro (_ | means)
    · exact ⟨none, .none, rfl⟩
    · exact ⟨some a, .some means, rfl⟩

/-- The payload is what the two members bring. -/
theorem payload_ok_iff {e : StructuredEvent} {value? encoded? : Option Json} {payload : Option Payload}
    (data : Option.Rel Json.IsPayload value? e.data) (encoded : Option.Rel Json.IsText encoded? e.encodedData) :
    e.payload = .ok payload ↔ Carried value? encoded? payload := by
  unfold StructuredEvent.payload
  generalize e.data = data? at data
  generalize e.encodedData = text? at encoded
  cases data with
  | none =>
    cases encoded with
    | none => exact ⟨by rintro ⟨⟩; exact .nothing, by rintro ⟨⟩; rfl⟩
    | @some _ text is =>
      cases is
      dsimp only
      constructor
      · intro ok
        split at ok
        · rename_i octets read
          cases ok
          rw [← Base64.encode_of_decode read]
          exact .octets octets
        · cases ok
      · rintro (_ | _ | octets)
        rw [Base64.decode_encode]
  | @some value _ is =>
    cases is
    cases encoded with
    | none => exact ⟨by rintro ⟨⟩; exact .value value, by rintro ⟨⟩; rfl⟩
    | some _ => exact ⟨nofun, nofun⟩

theorem exists_payload (value? : Option Json) : ∃ data?, Option.Rel Json.IsPayload value? data? := by
  cases value? with
  | none => exact ⟨none, .none⟩
  | some value => exact ⟨some value.canonical, .some rfl⟩

/-- What is no text brings no octets. -/
theorem Carried.encoded {value? encoded? : Option Json} {payload : Option Payload}
    (carried : Carried value? encoded? payload) : ∃ text?, Option.Rel Json.IsText encoded? text? := by
  cases carried with
  | octets octets => exact ⟨some (Base64.encode octets), .some rfl⟩
  | _ => exact ⟨none, .none⟩

/-! ## Extensions -/

/-- Only texts, numbers and Booleans have a text. -/
theorem scalarText?_eq_some {value : Json} {text : String} : scalarText? value = some text ↔ Scalar value text := by
  cases value with
  | string text => exact ⟨by rintro ⟨⟩; exact .string text, by rintro ⟨⟩; rfl⟩
  | number n =>
    have written : (Json.number n).text = n.text := String.ofList_toList
    rw [scalarText?, ← written]
    exact ⟨by rintro ⟨⟩; exact .number n, by rintro ⟨⟩; rfl⟩
  | bool value =>
    have written : (Json.bool value).text = if value then "true" else "false" := by
      cases value <;> decide
    rw [scalarText?, ← written]
    exact ⟨by rintro ⟨⟩; exact .bool value, by rintro ⟨⟩; rfl⟩
  | null | array | object => exact ⟨nofun, nofun⟩

/-- An extension stays as it is when it is read. -/
theorem scalar_canonical {value : Json} {text : String} : Scalar value.canonical text ↔ Scalar value text := by
  cases value with
  | array items => exact ⟨nofun, nofun⟩
  | object members => exact ⟨nofun, nofun⟩
  | _ => rfl

theorem rightUnique_scalar : Relator.RightUnique Scalar :=
  fun _ _ _ is is' => Option.some.inj ((scalarText?_eq_some.2 is).symm.trans (scalarText?_eq_some.2 is'))

/-- Every extension has a text, or there is no event. -/
theorem scalarEntries_ok_iff {entries : Entries Json} {texts : Entries String} : scalarEntries entries = .ok texts ↔
    List.Forall₂ (fun entry text => entry.1 = text.1 ∧ Scalar entry.2 text.2) entries texts := by
  induction entries generalizing texts with
  | nil =>
    rw [scalarEntries, List.forall₂_nil_left_iff]
    exact ⟨by rintro ⟨⟩; rfl, by rintro rfl; rfl⟩
  | cons entry rest ih =>
    obtain ⟨name, value⟩ := entry
    rw [scalarEntries]
    constructor
    · intro ok
      split at ok
      · cases ok
      · rename_i text scalar
        obtain ⟨more, others, rfl⟩ := map_ok ok
        exact .cons ⟨rfl, scalarText?_eq_some.1 scalar⟩ (ih.1 others)
    · intro each
      cases each with
      | @cons _ text _ _ one others =>
        obtain ⟨name', text⟩ := text
        obtain ⟨rfl, scalar⟩ := one
        rw [scalarText?_eq_some.2 scalar]
        dsimp only
        rw [ih.2 others]
        rfl

theorem get?_of_forall₂ {α β : Type} {R : α → β → Prop} {as : Entries α} {bs : Entries β}
    (each : List.Forall₂ (fun a b => a.1 = b.1 ∧ R a.2 b.2) as bs) (name : String) :
    Option.Rel R (as.get? name) (bs.get? name) := by
  induction each with
  | nil => exact .none
  | @cons a b _ _ one _ ih =>
    obtain ⟨key, a⟩ := a
    obtain ⟨key', b⟩ := b
    obtain ⟨rfl, r⟩ := one
    rw [Entries.get?, Entries.get?]
    split
    · exact .some r
    · exact ih

/-- The extensions of an event are the texts of those that were read, each under its name. -/
theorem extensions_iff {read : Dict Json} {extensions : Dict String} :
    (∃ texts, scalarEntries read.entries = .ok texts ∧ extensions = Dict.ofList texts) ↔
      ∀ name, Option.Rel Scalar (read.get? name) (extensions.get? name) := by
  have found {texts : Entries String} (made : scalarEntries read.entries = .ok texts) (name : String) :
      Option.Rel Scalar (read.get? name) ((Dict.ofList texts).get? name) := by
    have ascending : texts.Ascending := by
      have names : read.entries.map Prod.fst = texts.map Prod.fst :=
        map_eq_of_forall₂ (scalarEntries_ok_iff.1 made) fun _ _ both => both.1
      unfold Entries.Ascending
      rw [← names]
      exact read.ascending
    rw [Dict.get?_ofList, Entries.last?_eq_get? ascending.nodup_names]
    exact get?_of_forall₂ (scalarEntries_ok_iff.1 made) name
  constructor
  · rintro ⟨texts, made, rfl⟩ name
    exact found made name
  · intro each
    have scalars : ∀ entry ∈ read.entries, ∃ text : String × String, entry.1 = text.1 ∧ Scalar entry.2 text.2 := by
      rintro ⟨name, value⟩ mem
      have rel := each name
      rw [Dict.get?, read.ascending.get?_eq_some_iff.2 mem] at rel
      generalize extensions.get? name = text? at rel
      cases rel with
      | @some _ text scalar => exact ⟨(name, text), rfl, scalar⟩
    obtain ⟨texts, pairs⟩ := exists_forall₂ scalars
    have made := scalarEntries_ok_iff.2 pairs
    refine ⟨texts, made, Dict.eq_of_get? fun name => ?_⟩
    exact ((eq_iff_of_rel rightUnique_scalar (found made name)).2 (each name)).symm

/-- Of the other members each is an extension, and none of the event's own. -/
theorem others_iff (distinct : (members.map Prod.fst).Nodup) {extensions : Dict String} :
    (∀ name, Option.Rel Scalar ((Dict.ofList (others members)).get? name) (extensions.get? name)) ↔
      (∀ name ∈ coreNames, extensions.get? name = none) ∧
        ∀ name ∉ coreNames, Option.Rel Scalar (members.get? name) (extensions.get? name) := by
  have own {name : String} (core : name ∈ coreNames) :
      Option.Rel Scalar ((Dict.ofList (others members)).get? name) (extensions.get? name) ↔
        extensions.get? name = none := by
    rw [get?_others, if_pos core, rel_none_iff]
  have other {name : String} (other : name ∉ coreNames) :
      Option.Rel Scalar ((Dict.ofList (others members)).get? name) (extensions.get? name) ↔
        Option.Rel Scalar (members.get? name) (extensions.get? name) := by
    rw [get?_others, if_neg other, Entries.last?_eq_get? distinct]
    cases members.get? name with
    | none => rfl
    | some value =>
      cases extensions.get? name with
      | none => exact ⟨nofun, nofun⟩
      | some text => rw [Option.map_some, Option.rel_some_some, Option.rel_some_some, scalar_canonical]
  constructor
  · exact fun each => ⟨fun name core => (own core).1 (each name), fun name apart => (other apart).1 (each name)⟩
  · rintro ⟨ofOwn, ofOthers⟩ name
    by_cases core : name ∈ coreNames
    · exact (own core).2 (ofOwn name core)
    · exact (other core).2 (ofOthers name core)

/-! ## Events -/

/-- An event has what was read, but for a source and a time that are filled in. -/
theorem toEvent_ok_iff {e : StructuredEvent} : e.toEvent source time = .ok event ↔
    e.payload = .ok event.payload ∧
    (∃ texts, scalarEntries e.extensions.entries = .ok texts ∧ event.extensions = Dict.ofList texts) ∧
    e.specVersion = event.specVersion ∧ e.id = event.id ∧ e.kind = event.kind ∧ e.subject = event.subject ∧
    e.schema = event.schema ∧ e.contentType = event.contentType ∧ e.source.getD source = event.source ∧
    e.time.getD time = event.time := by
  constructor
  · intro made
    obtain ⟨payload, carried, made⟩ := bind_ok made
    obtain ⟨texts, scalars, made⟩ := bind_ok made
    cases made
    exact ⟨carried, ⟨texts, scalars, rfl⟩, rfl, rfl, rfl, rfl, rfl, rfl, rfl, rfl⟩
  · obtain ⟨specVersion, id, from', kind, at', subject, schema, contentType, payload, extensions⟩ := event
    rintro ⟨carried, ⟨texts, scalars, rfl⟩, rfl, rfl, rfl, rfl, rfl, rfl, rfl, rfl⟩
    unfold toEvent
    rw [carried, scalars]
    rfl

/-- No extension of an event is called like one of its own members. -/
theorem get?_extensions_toEvent {tree : Tree} {e : StructuredEvent} (read : ofTree tree = .ok e)
    (made : e.toEvent source time = .ok event) {name : String} (core : name ∈ coreNames) :
    event.extensions.get? name = none := by
  obtain ⟨-, extensions, -⟩ := toEvent_ok_iff.1 made
  have rel := extensions_iff.1 extensions name
  rwa [get?_extensions read core, rel_none_iff] at rel

/-- An object is converted member by member. -/
theorem has_toEvent_iff (distinct : (members.map Prod.fst).Nodup) :
    (∃ e, Has members e ∧ e.toEvent source time = .ok event) ↔ Converts members source time event := by
  have stated (name : String) := Json.stated?_of_distinct distinct name
  have text {name : String} {text : String} : Option.Rel Json.IsText (Json.stated? name members) (some text) ↔
      members.get? name = some (.string text) := by
    rw [stated, isText_rel_iff, Option.map_some, Json.given?_eq_string]
  constructor
  · rintro ⟨e, has, made⟩
    obtain ⟨payload, extensions, version, id, kind, subject, schema, contentType, from', at'⟩ := toEvent_ok_iff.1 made
    rw [extensions_iff, ← has.extensions, others_iff distinct] at extensions
    constructor
    · rw [← version, ← text]
      exact has.specVersion
    · rw [← id, ← text]
      exact has.id
    · rw [← kind, ← text]
      exact has.kind
    · rw [← stated, ← subject, ← isText_rel_iff]
      exact has.subject
    · rw [← stated, ← schema, ← isText_rel_iff]
      exact has.schema
    · rw [← stated, ← contentType, ← isText_rel_iff]
      exact has.contentType
    · rw [← stated]
      exact filled_iff.1 ⟨e.source, has.source, from'⟩
    · rw [← stated]
      exact filled_iff.1 ⟨e.time, has.time, at'⟩
    · rw [← stated, ← stated]
      exact (payload_ok_iff has.data has.encodedData).1 payload
    · exact extensions.1
    · exact extensions.2
  · intro converts
    obtain ⟨source?, hasSource, from'⟩ := filled_iff.2 converts.source
    obtain ⟨time?, hasTime, at'⟩ := filled_iff.2 converts.time
    obtain ⟨data?, hasData⟩ := exists_payload ((Json.object members).given? "data")
    obtain ⟨encoded?, hasEncoded⟩ := converts.payload.encoded
    let e : StructuredEvent := {
      specVersion := event.specVersion, id := event.id, source := source?, kind := event.kind, time := time?
      subject := event.subject, schema := event.schema, contentType := event.contentType, data := data?
      encodedData := encoded?, extensions := Dict.ofList (others members) }
    refine ⟨e, ?_, toEvent_ok_iff.2 ⟨?_, ?_, rfl, rfl, rfl, rfl, rfl, rfl, from', at'⟩⟩
    · constructor
      case extensions => rfl
      case specVersion => exact text.2 converts.specVersion
      case id => exact text.2 converts.id
      case kind => exact text.2 converts.kind
      all_goals rw [stated]
      case source => exact hasSource
      case time => exact hasTime
      case subject => exact isText_rel_iff.2 converts.subject
      case schema => exact isText_rel_iff.2 converts.schema
      case contentType => exact isText_rel_iff.2 converts.contentType
      case data => exact hasData
      case encodedData => exact hasEncoded
    · exact (payload_ok_iff hasData hasEncoded).2 converts.payload
    · exact extensions_iff.2 ((others_iff distinct).2 ⟨converts.own, converts.others⟩)

/-- **Nothing of an object is lost.** An object of distinct members, wherever it stands, becomes an event just if its
members say that it does (`Converts`): the version, the ID and the kind, a subject, a schema and a content type are
those that are given, the source and the time too unless they are missing or null, the payload is that of one of the
two members, and the extensions are all other members, texts as they are and numbers and Booleans as they are written.
If one of the reasons for a refusal holds, either reading or conversion fails. A text of the object is read as the
object is. -/
theorem converted_without_loss (distinct : (members.map Prod.fst).Nodup) (source : String) (time : Instant) :
    (∀ tree : Tree, tree.toJson = .ok (.object members) → ∀ event,
      (∃ e, ofTree tree = .ok e ∧ e.toEvent source time = .ok event) ↔ Converts members source time event) ∧
    (∀ tree : Tree, tree.toJson = .ok (.object members) → Refused members →
      (∃ fault, ofTree tree = .error fault) ∨
        ∃ e fault, ofTree tree = .ok e ∧ e.toEvent source time = .error fault) ∧
    ∀ text, Json.decodeWith Tree.toJson text = .ok (.object members) →
      ∃ tree, tree.toJson = .ok (.object members) ∧ decode text = ofTree tree := by
  have decides {tree : Tree} (object : tree.toJson = .ok (.object members)) (event : Event) :
      (∃ e, ofTree tree = .ok e ∧ e.toEvent source time = .ok event) ↔ Converts members source time event := by
    simp only [ofTree_ok_iff distinct object]
    exact has_toEvent_iff distinct
  refine ⟨fun tree object => decides object, fun tree object refused => ?_, fun text written => ?_⟩
  · cases read : ofTree tree with
    | error fault => exact .inl ⟨fault, rfl⟩
    | ok e =>
      cases made : e.toEvent source time with
      | error fault => exact .inr ⟨e, fault, rfl, made⟩
      | ok event => exact absurd ((decides object event).1 ⟨e, read, made⟩) refused.not_converts
  · obtain ⟨tree, rest, read, object, ends⟩ := Json.decodeWith_ok written
    refine ⟨tree, object, ?_⟩
    unfold decode Json.decodeWith
    rw [read]
    dsimp only
    cases ofTree tree with
    | error fault => rfl
    | ok e =>
      change (Json.endOfDocument rest >>= fun _ => pure e) = _
      rw [ends]
      rfl

namespace Sample

/-- No source, a payload of one octet, and a number for an extension. -/
def object : Entries Json :=
  [("id", .string "e1"), ("n", .number (.integer (-7))), ("specversion", .string "1.0"), ("source", .null),
    ("type", .string "created"), ("data_base64", .string "QQ==")]

def text : Utf8.Bytes := Utf8.bytes ("\x7b\"id\": \"e1\", \"n\":-7, \"specversion\":\"1.0\", \"source\":null, " ++
  "\"type\":\"created\", \"data_base64\":\"QQ==\"\x7d")

/-- A list is no extension. -/
def list : Tree := .object 0 [("list", 1, .array 8 [] (.ok 10))] (.ok 11)

end Sample

set_option maxRecDepth 4000 in
/-- The source is filled in, the octet is read, and the number is an extension. A list is refused. -/
theorem converted_without_loss_octet :
    (Sample.object.map Prod.fst).Nodup ∧
    Json.decodeWith Tree.toJson Sample.text = .ok (.object Sample.object) ∧
    (∃ e event, decode Sample.text = .ok e ∧ e.toEvent "queue" .epoch = .ok event ∧ event.source = "queue" ∧
      event.payload = some (.binary [65]) ∧ event.extensions.get? "n" = some "-7" ∧
      event.extensions.get? "id" = none) ∧
    Refused [("list", .array [])] ∧
    ((∃ fault, ofTree Sample.list = .error fault) ∨
      ∃ e fault, ofTree Sample.list = .ok e ∧ e.toEvent "queue" .epoch = .error fault) := by
  have distinct : (Sample.object.map Prod.fst).Nodup := by decide
  have written : Json.decodeWith Tree.toJson Sample.text = .ok (.object Sample.object) := rfl
  have other : "list" ∉ coreNames := by decide
  have refused : Refused [("list", .array [])] := .nested other rfl (.inl ⟨[], rfl⟩)
  refine ⟨distinct, written, ?_, refused, ?_⟩
  · obtain ⟨decides, -, decoded⟩ := converted_without_loss distinct "queue" .epoch
    obtain ⟨tree, object, same⟩ := decoded _ written
    obtain ⟨e, read⟩ : ∃ e, decode Sample.text = .ok e := ⟨_, rfl⟩
    obtain ⟨event, made⟩ : ∃ event, e.toEvent "queue" .epoch = .ok event := by
      cases read
      exact ⟨_, rfl⟩
    have converts := (decides tree object event).1 ⟨e, same ▸ read, made⟩
    refine ⟨e, event, read, made, ?_, ?_, ?_, converts.own "id" (by decide)⟩
    · have source : Filled Json.IsText "queue" none event.source := converts.source
      generalize event.source = text at source ⊢
      cases source
      rfl
    · cases read
      cases made
      rfl
    · have number : Option.Rel Scalar (some (.number (.integer (-7)))) (event.extensions.get? "n") :=
        converts.others "n" (by decide)
      generalize event.extensions.get? "n" = text? at number ⊢
      rcases number with ⟨⟨⟩⟩
      rfl
  · have alone : (([("list", .array [])] : Entries Json).map Prod.fst).Nodup := by decide
    obtain ⟨-, refuses, -⟩ := converted_without_loss alone "queue" .epoch
    exact refuses Sample.list rfl refused

end StructuredEvent

end BusRelay
