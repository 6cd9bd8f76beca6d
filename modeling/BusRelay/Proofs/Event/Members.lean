import BusRelay.Event.Structured
import BusRelay.Proofs.Dict
import BusRelay.Proofs.Except
import BusRelay.Proofs.Json.Tree
import BusRelay.Proofs.Json.Value
import BusRelay.Proofs.List
/-!
# The members of an event

An event is read from an object member by member (`Reads`), and has what the last member of each name says: its own
attributes what these mean, unless they are null, and all others as extensions (`ofAttributes_iff_has`). Of an object
of distinct members just the event is read that has what they say (`ofTree_ok_iff`). What is called like one of the
event's own members is never an extension (`get?_extensions`).
-/

namespace BusRelay

open Json (Tree Fault)

/-! ## What is read of a value -/

namespace Json

theorem nonNull?_canonical (value : Json) : value.canonical.nonNull? = value.nonNull?.map canonical := by
  cases value <;> rfl

/-- What the last member of a name says, unless it is null. -/
def stated? (name : String) (members : Entries Json) : Option Json := (members.last? name).bind nonNull?

theorem stated?_cons (name key : String) (value : Json) (members : Entries Json) :
    stated? name ((key, value) :: members) =
      ((members.last? name).or (if name = key then some value else none)).bind nonNull? := rfl

/-- Among distinct names this is what the only one says. -/
theorem stated?_of_distinct {members : Entries Json} (distinct : (members.map Prod.fst).Nodup) (name : String) :
    stated? name members = (object members).given? name := by
  rw [stated?, given?, Entries.last?_eq_get? distinct]

theorem given?_object_canonical (name : String) (members : Entries Json) :
    (object members).canonical.given? name = (stated? name members).map canonical := by
  rw [given?_canonical, canonicalMembers_eq, Entries.last?_map, stated?]
  cases members.last? name with
  | none => rfl
  | some value => exact nonNull?_canonical value

/-- The value is a text. -/
def IsText (value : Json) (text : String) : Prop := value = .string text

/-- The value is the text of an instant. -/
def IsInstant (value : Json) (instant : Instant) : Prop :=
  ∃ text, value = .string text ∧ Rfc3339.read text = .ok instant

/-- The value as a payload. -/
def IsPayload (value payload : Json) : Prop := value.canonical = payload

theorem rightUnique_isText : Relator.RightUnique IsText :=
  fun _ _ _ is is' => Json.string.inj (is.symm.trans is')

theorem rightUnique_isInstant : Relator.RightUnique IsInstant := by
  rintro _ instant other ⟨text, rfl, read⟩ ⟨_, ⟨⟩, read'⟩
  exact Except.ok.inj (read.symm.trans read')

theorem rightUnique_isPayload : Relator.RightUnique IsPayload :=
  fun _ _ _ is is' => is.symm.trans is'

namespace Tree

variable {tree : Tree} {raw : Json} (made : tree.toJson = .ok raw)

include made

theorem asText_ok_iff {text : String} : tree.asText = .ok text ↔ raw.IsText text := by
  cases worth_of_toJson made with
  | string value stop => exact ⟨by rintro ⟨⟩; rfl, by rintro ⟨⟩; rfl⟩
  | _ => exact ⟨nofun, nofun⟩

theorem readInstant_ok_iff {instant : Instant} :
    StructuredEvent.readInstant tree = .ok instant ↔ raw.IsInstant instant := by
  cases worth_of_toJson made with
  | string value stop =>
    unfold StructuredEvent.readInstant IsInstant
    dsimp only
    constructor
    · intro ok
      split at ok
      · rename_i read
        cases ok
        exact ⟨value, rfl, read⟩
      · cases ok
    · rintro ⟨text, ⟨⟩, read⟩
      rw [read]
  | _ => exact ⟨nofun, nofun⟩

theorem readAny_ok_iff {value : Json} : StructuredEvent.readAny tree = .ok value ↔ raw.IsPayload value := by
  rw [StructuredEvent.readAny, made]
  exact ⟨by rintro ⟨⟩; rfl, by rintro rfl; rfl⟩

/-- What may be null is read of what is not. -/
theorem nullOr_ok_iff {α : Type} {read : Tree → Except Fault α} {R : Json → α → Prop}
    (reads : ∀ {a}, read tree = .ok a ↔ R raw a) {value : Option α} :
    tree.nullOr read = .ok value ↔ Option.Rel R raw.nonNull? value := by
  by_cases none : ∃ stop, tree = .null stop
  · obtain ⟨stop, rfl⟩ := none
    cases made
    exact ⟨by rintro ⟨⟩; exact .none, by rintro ⟨⟩; rfl⟩
  · have other : raw.nonNull? = some raw := by
      cases worth_of_toJson made with
      | null stop => exact absurd ⟨stop, rfl⟩ none
      | _ => rfl
    have reader : tree.nullOr read = some <$> read tree := by
      cases tree with
      | null stop => exact absurd ⟨stop, rfl⟩ none
      | _ => rfl
    rw [other, reader]
    constructor
    · intro ok
      obtain ⟨a, here, rfl⟩ := map_ok ok
      exact .some (reads.1 here)
    · rintro (r | _)
      rw [reads.2 r]
      rfl

end Tree

end Json

/-! ## The members of an event -/

namespace Attribute

/-- The name of the member that an attribute is read of. -/
def name : Attribute → String
  | specVersion _ => "specversion"
  | id _ => "id"
  | source _ => "source"
  | kind _ => "type"
  | time _ => "time"
  | subject _ => "subject"
  | schema _ => "dataschema"
  | contentType _ => "datacontenttype"
  | data _ => "data"
  | encodedData _ => "data_base64"
  | extension name _ => name

/-! What an attribute holds, if it is of one kind. -/

def specVersion? : Attribute → Option String
  | specVersion text => some text
  | _ => none

def id? : Attribute → Option String
  | id text => some text
  | _ => none

def kind? : Attribute → Option String
  | kind text => some text
  | _ => none

def source? : Attribute → Option String
  | source text => text
  | _ => none

def time? : Attribute → Option Instant
  | time instant => instant
  | _ => none

def subject? : Attribute → Option String
  | subject text => text
  | _ => none

def schema? : Attribute → Option String
  | schema text => text
  | _ => none

def contentType? : Attribute → Option String
  | contentType text => text
  | _ => none

/-- The payload that a member brings as a value. -/
def data? : Attribute → Option Json
  | data value => value
  | _ => none

/-- The payload that a member brings as Base64 text. -/
def encodedData? : Attribute → Option String
  | encodedData text => text
  | _ => none

def extension? : Attribute → Option (String × Json)
  | extension name value => some (name, value)
  | _ => none

end Attribute

namespace StructuredEvent

/-- What becomes of a member. -/
inductive Reads : (name : String) → Tree → Attribute → Prop where
  | specVersion {tree : Tree} {text : String} (read : tree.asText = .ok text) :
      Reads "specversion" tree (.specVersion text)
  | id {tree : Tree} {text : String} (read : tree.asText = .ok text) : Reads "id" tree (.id text)
  | source {tree : Tree} {text : Option String} (read : tree.nullOr Tree.asText = .ok text) :
      Reads "source" tree (.source text)
  | kind {tree : Tree} {text : String} (read : tree.asText = .ok text) : Reads "type" tree (.kind text)
  | time {tree : Tree} {instant : Option Instant} (read : tree.nullOr readInstant = .ok instant) :
      Reads "time" tree (.time instant)
  | subject {tree : Tree} {text : Option String} (read : tree.nullOr Tree.asText = .ok text) :
      Reads "subject" tree (.subject text)
  | schema {tree : Tree} {text : Option String} (read : tree.nullOr Tree.asText = .ok text) :
      Reads "dataschema" tree (.schema text)
  | contentType {tree : Tree} {text : Option String} (read : tree.nullOr Tree.asText = .ok text) :
      Reads "datacontenttype" tree (.contentType text)
  | data {tree : Tree} {value : Option Json} (read : tree.nullOr readAny = .ok value) :
      Reads "data" tree (.data value)
  | encodedData {tree : Tree} {text : Option String} (read : tree.nullOr Tree.asText = .ok text) :
      Reads "data_base64" tree (.encodedData text)
  | extension {name : String} {tree : Tree} {value : Json} (other : name ∉ coreNames)
      (read : readAny tree = .ok value) : Reads name tree (.extension name value)

theorem readAttribute_other {name : String} (other : name ∉ coreNames) (tree : Tree) :
    readAttribute name tree = .extension name <$> readAny tree := by
  unfold readAttribute
  split
  all_goals first
    | rfl
    | exact absurd (by decide) other

theorem readAttribute_ok_iff {name : String} {tree : Tree} {a : Attribute} :
    readAttribute name tree = .ok a ↔ Reads name tree a := by
  constructor
  · intro read
    unfold readAttribute at read
    split at read
    all_goals obtain ⟨value, done, rfl⟩ := map_ok read
    · exact .specVersion done
    · exact .id done
    · exact .source done
    · exact .kind done
    · exact .time done
    · exact .subject done
    · exact .schema done
    · exact .contentType done
    · exact .data done
    · exact .encodedData done
    · exact .extension (by simp_all [coreNames]) done
  · intro reads
    cases reads with
    | extension other read =>
      rw [readAttribute_other other, read]
      rfl
    | _ read =>
      simp only [readAttribute, read]
      rfl

variable {e : StructuredEvent} {tree : Tree}

/-- The members of an event are read one by one, and none of its own is repeated. -/
theorem readAttributes_cons {seen : List String} {name : String} {named : Nat} {value : Tree}
    {rest : List (String × Nat × Tree)} {attributes : List Attribute}
    (read : readAttributes seen ((name, named, value) :: rest) = .ok attributes) :
    ∃ first more, attributes = first :: more ∧ Reads name value first ∧
      readAttributes (name :: seen) rest = .ok more ∧ (name ∈ coreNames → name ∉ seen) := by
  rw [readAttributes] at read
  split at read
  · cases read
  · rename_i new
    obtain ⟨first, one, read⟩ := bind_ok read
    obtain ⟨more, others, made⟩ := bind_ok read
    cases made
    exact ⟨first, more, rfl, readAttribute_ok_iff.1 one, others, fun core seen => new ⟨core, seen⟩⟩

/-- An event is an object that ends. -/
theorem ofTree_ok (made : ofTree tree = .ok e) : ∃ start members stop attributes,
    tree = .object start members (.ok stop) ∧ readAttributes [] members = .ok attributes ∧
      ofAttributes attributes stop = .ok e := by
  unfold ofTree at made
  split at made
  · rename_i start members stop
    obtain ⟨attributes, read, made⟩ := bind_ok made
    obtain ⟨stop, rfl, made⟩ := bind_ok made
    exact ⟨start, members, stop, attributes, rfl, read, made⟩
  · cases made

theorem Reads.name_eq {key : String} {a : Attribute} (reads : Reads key tree a) : a.name = key := by
  cases reads <;> rfl

section

variable {β : Type} {R : Json → β → Prop} {name : String} {pick : Attribute → Option β}

/-- A member of its own kind is found among the attributes. -/
theorem findSome?_readAttributes (core : name ∈ coreNames)
    (own : ∀ {tree a raw}, readAttribute name tree = .ok a → tree.toJson = .ok raw →
      Option.Rel R raw.nonNull? (pick a))
    (other : ∀ {a}, a.name ≠ name → pick a = none)
    {seen : List String} {members : List (String × Nat × Tree)} {attributes : List Attribute}
    {raws : List (String × Json)} (read : readAttributes seen members = .ok attributes)
    (json : Tree.membersToJson members = .ok raws) :
    Option.Rel R (Json.stated? name raws) (attributes.findSome? pick) ∧
      (name ∈ seen → Entries.last? name raws = none ∧ attributes.findSome? pick = none) := by
  induction members generalizing seen attributes raws with
  | nil =>
    cases read
    cases json
    exact ⟨.none, fun _ => ⟨rfl, rfl⟩⟩
  | cons member rest ih =>
    obtain ⟨key, named, tree⟩ := member
    obtain ⟨first, more, rfl, reads, readMore, new⟩ := readAttributes_cons read
    obtain ⟨raw, raws, one, others, rfl⟩ := Tree.membersToJson_cons json
    obtain ⟨found, once⟩ := ih readMore others
    rw [List.findSome?_cons, Json.stated?_cons, Entries.last?]
    by_cases same : name = key
    · subst same
      obtain ⟨last, later⟩ := once List.mem_cons_self
      have here := own (readAttribute_ok_iff.2 reads) one
      rw [last, later, if_pos rfl, Option.none_or, Option.bind_some]
      refine ⟨?_, fun seen => absurd seen (new core)⟩
      cases picked : pick first <;> rwa [picked] at here
    · have apart : first.name ≠ name := by
        rw [reads.name_eq]
        exact Ne.symm same
      rw [other apart, if_neg same, Option.or_none]
      exact ⟨found, fun seen => once (List.mem_cons_of_mem _ seen)⟩

end

section

variable {members : List (String × Nat × Tree)} {attributes : List Attribute} {raws : Entries Json}
variable (read : readAttributes [] members = .ok attributes) (json : Tree.membersToJson members = .ok raws)
variable {name : String} (core : name ∈ coreNames)

include read json core

/-- A text that has to be there is found as it is. -/
theorem findSome?_text {wrap : String → Attribute} {pick : Attribute → Option String}
    (member : ∀ tree, readAttribute name tree = wrap <$> tree.asText) (own : ∀ text, pick (wrap text) = some text)
    (other : ∀ {a}, a.name ≠ name → pick a = none) {text? : Option String} :
    attributes.findSome? pick = text? ↔ Option.Rel Json.IsText (Json.stated? name raws) text? := by
  refine eq_iff_of_rel Json.rightUnique_isText
    (findSome?_readAttributes core (fun {tree a raw} found made => ?_) other read json).1
  obtain ⟨text, here, rfl⟩ := map_ok ((member tree).symm.trans found)
  obtain rfl := (Tree.asText_ok_iff made).1 here
  rw [own]
  exact .some rfl

/-- What may be null is found as it is. -/
theorem findSome?_optional {β : Type} {R : Json → β → Prop} {reader : Tree → Except Fault β}
    (reads : ∀ {tree : Tree} {raw : Json}, tree.toJson = .ok raw → ∀ {b}, reader tree = .ok b ↔ R raw b)
    (unique : Relator.RightUnique R) {wrap : Option β → Attribute}
    {pick : Attribute → Option β} (member : ∀ tree, readAttribute name tree = wrap <$> tree.nullOr reader)
    (own : ∀ b, pick (wrap b) = b) (other : ∀ {a}, a.name ≠ name → pick a = none) {b? : Option β} :
    attributes.findSome? pick = b? ↔ Option.Rel R (Json.stated? name raws) b? := by
  refine eq_iff_of_rel unique (findSome?_readAttributes core (fun {tree a raw} found made => ?_) other read json).1
  obtain ⟨b, here, rfl⟩ := map_ok ((member tree).symm.trans found)
  rw [own]
  exact (Tree.nullOr_ok_iff made (reads made)).1 here

end

theorem required_ok_iff {α : Type} {name : String} {stop : Nat} {value? : Option α} {value : α} :
    required name stop value? = .ok value ↔ value? = some value := by
  rw [← toOption_eq_some]
  cases value? <;> rfl

/-- Of the attributes an event is made that has what they are. -/
theorem ofAttributes_ok_iff {attributes : List Attribute} {stop : Nat} {e : StructuredEvent} :
    ofAttributes attributes stop = .ok e ↔
      attributes.findSome? Attribute.specVersion? = some e.specVersion ∧
      attributes.findSome? Attribute.id? = some e.id ∧
      attributes.findSome? Attribute.kind? = some e.kind ∧
      attributes.findSome? Attribute.source? = e.source ∧
      attributes.findSome? Attribute.time? = e.time ∧
      attributes.findSome? Attribute.subject? = e.subject ∧
      attributes.findSome? Attribute.schema? = e.schema ∧
      attributes.findSome? Attribute.contentType? = e.contentType ∧
      attributes.findSome? Attribute.data? = e.data ∧
      attributes.findSome? Attribute.encodedData? = e.encodedData ∧
      Dict.ofList (attributes.filterMap Attribute.extension?) = e.extensions := by
  constructor
  · intro made
    obtain ⟨specVersion, version, made⟩ := bind_ok made
    obtain ⟨id, identified, made⟩ := bind_ok made
    obtain ⟨kind, typed, made⟩ := bind_ok made
    cases made
    exact ⟨required_ok_iff.1 version, required_ok_iff.1 identified, required_ok_iff.1 typed, rfl, rfl, rfl, rfl, rfl,
      rfl, rfl, rfl⟩
  · obtain ⟨specVersion, id, source, kind, time, subject, schema, contentType, data, encodedData, extensions⟩ := e
    dsimp only
    rintro ⟨version, identified, typed, rfl, rfl, rfl, rfl, rfl, rfl, rfl, rfl⟩
    have made : ofAttributes attributes stop = do
        let specVersion ← required "specversion" stop (attributes.findSome? Attribute.specVersion?)
        let id ← required "id" stop (attributes.findSome? Attribute.id?)
        let kind ← required "type" stop (attributes.findSome? Attribute.kind?)
        return {
          specVersion, id, kind
          source := attributes.findSome? Attribute.source?
          time := attributes.findSome? Attribute.time?
          subject := attributes.findSome? Attribute.subject?
          schema := attributes.findSome? Attribute.schema?
          contentType := attributes.findSome? Attribute.contentType?
          data := attributes.findSome? Attribute.data?
          encodedData := attributes.findSome? Attribute.encodedData?
          extensions := Dict.ofList (attributes.filterMap Attribute.extension?) } := rfl
    rw [made, version, identified, typed]
    rfl

/-! ## Extensions -/

/-- An extension is not called like a member of another kind. -/
theorem extension_names {seen : List String} {members : List (String × Nat × Tree)} {attributes : List Attribute}
    (read : readAttributes seen members = .ok attributes) {name : String} {value : Json}
    (mem : .extension name value ∈ attributes) : name ∉ coreNames := by
  induction members generalizing seen attributes with
  | nil =>
    cases read
    cases mem
  | cons member rest ih =>
    obtain ⟨key, named, tree⟩ := member
    obtain ⟨first, more, rfl, one, others, -⟩ := readAttributes_cons read
    rcases List.mem_cons.1 mem with rfl | later
    · cases one with
      | extension other => exact other
    · exact ih others later

theorem get?_extensions (made : ofTree tree = .ok e) {name : String} (core : name ∈ coreNames) :
    e.extensions.get? name = none := by
  obtain ⟨start, members, stop, attributes, rfl, read, made⟩ := ofTree_ok made
  obtain ⟨-, -, -, -, -, -, -, -, -, -, extensions⟩ := ofAttributes_ok_iff.1 made
  rw [← extensions, Dict.get?_ofList, Entries.last?_eq_none_iff]
  intro mem
  obtain ⟨⟨key, value⟩, found, rfl⟩ := List.mem_map.1 mem
  obtain ⟨a, mem, extension⟩ := List.mem_filterMap.1 found
  cases a <;> cases extension
  exact extension_names read mem core

/-- Whatever is not one of the event's own members is an extension. -/
theorem extension?_of_reads {key : String} {tree : Tree} {a : Attribute} {raw : Json} (reads : Reads key tree a)
    (made : tree.toJson = .ok raw) :
    a.extension? = if key ∈ coreNames then none else some (key, raw.canonical) := by
  cases reads with
  | extension other whole =>
    rw [if_neg other, (Tree.readAny_ok_iff made).1 whole]
    rfl
  | _ => exact (if_pos (by decide)).symm

/-- The other members, as extensions. -/
def others (members : Entries Json) : Entries Json :=
  (members.filter fun member => member.1 ∉ coreNames).map fun member => (member.1, member.2.canonical)

theorem filterMap_extension? {seen : List String} {members : List (String × Nat × Tree)}
    {attributes : List Attribute} {raws : Entries Json} (read : readAttributes seen members = .ok attributes)
    (json : Tree.membersToJson members = .ok raws) : attributes.filterMap Attribute.extension? = others raws := by
  induction members generalizing seen attributes raws with
  | nil =>
    cases read
    cases json
    rfl
  | cons member rest ih =>
    obtain ⟨key, named, tree⟩ := member
    obtain ⟨first, more, rfl, reads, readMore, -⟩ := readAttributes_cons read
    obtain ⟨raw, raws, one, those, rfl⟩ := Tree.membersToJson_cons json
    rw [List.filterMap_cons, extension?_of_reads reads one, ih readMore those, others, others, List.filter_cons]
    by_cases core : key ∈ coreNames <;> simp [core]

theorem get?_others (members : Entries Json) (name : String) : (Dict.ofList (others members)).get? name =
    if name ∈ coreNames then none else (members.last? name).map Json.canonical := by
  rw [Dict.get?_ofList, others, Entries.last?_map, Entries.last?_filter fun name => decide (name ∉ coreNames)]
  by_cases core : name ∈ coreNames <;> simp [core]

/-! ## Events and objects -/

/-- An event has what the last members of an object say: those of its own kind what they mean, and of the others
each is an extension. -/
@[mk_iff has_iff]
structure Has (members : Entries Json) (e : StructuredEvent) : Prop where
  specVersion : Option.Rel Json.IsText (Json.stated? "specversion" members) (some e.specVersion)
  id : Option.Rel Json.IsText (Json.stated? "id" members) (some e.id)
  kind : Option.Rel Json.IsText (Json.stated? "type" members) (some e.kind)
  source : Option.Rel Json.IsText (Json.stated? "source" members) e.source
  time : Option.Rel Json.IsInstant (Json.stated? "time" members) e.time
  subject : Option.Rel Json.IsText (Json.stated? "subject" members) e.subject
  schema : Option.Rel Json.IsText (Json.stated? "dataschema" members) e.schema
  contentType : Option.Rel Json.IsText (Json.stated? "datacontenttype" members) e.contentType
  data : Option.Rel Json.IsPayload (Json.stated? "data" members) e.data
  encodedData : Option.Rel Json.IsText (Json.stated? "data_base64" members) e.encodedData
  extensions : Dict.ofList (others members) = e.extensions

/-- What is made of the attributes of an object is what has what its members say. -/
theorem ofAttributes_iff_has {members : List (String × Nat × Tree)} {attributes : List Attribute}
    {raws : Entries Json} (read : readAttributes [] members = .ok attributes)
    (json : Tree.membersToJson members = .ok raws) {stop : Nat} {e : StructuredEvent} :
    ofAttributes attributes stop = .ok e ↔ Has raws e := by
  rw [ofAttributes_ok_iff, has_iff, filterMap_extension? read json]
  refine and_congr ?_ <| and_congr ?_ <| and_congr ?_ <| and_congr ?_ <| and_congr ?_ <| and_congr ?_ <|
    and_congr ?_ <| and_congr ?_ <| and_congr ?_ <| and_congr ?_ Iff.rfl
  · exact findSome?_text read json (by decide) (fun _ => rfl) (fun _ => rfl) fun {a} apart => by
      cases a <;> simp_all [Attribute.name, Attribute.specVersion?]
  · exact findSome?_text read json (by decide) (fun _ => rfl) (fun _ => rfl) fun {a} apart => by
      cases a <;> simp_all [Attribute.name, Attribute.id?]
  · exact findSome?_text read json (by decide) (fun _ => rfl) (fun _ => rfl) fun {a} apart => by
      cases a <;> simp_all [Attribute.name, Attribute.kind?]
  · refine findSome?_optional read json (by decide) Tree.asText_ok_iff Json.rightUnique_isText (fun _ => rfl)
      (fun _ => rfl) fun {a} apart => ?_
    cases a <;> simp_all [Attribute.name, Attribute.source?]
  · refine findSome?_optional read json (by decide) Tree.readInstant_ok_iff Json.rightUnique_isInstant (fun _ => rfl)
      (fun _ => rfl) fun {a} apart => ?_
    cases a <;> simp_all [Attribute.name, Attribute.time?]
  · refine findSome?_optional read json (by decide) Tree.asText_ok_iff Json.rightUnique_isText (fun _ => rfl)
      (fun _ => rfl) fun {a} apart => ?_
    cases a <;> simp_all [Attribute.name, Attribute.subject?]
  · refine findSome?_optional read json (by decide) Tree.asText_ok_iff Json.rightUnique_isText (fun _ => rfl)
      (fun _ => rfl) fun {a} apart => ?_
    cases a <;> simp_all [Attribute.name, Attribute.schema?]
  · refine findSome?_optional read json (by decide) Tree.asText_ok_iff Json.rightUnique_isText (fun _ => rfl)
      (fun _ => rfl) fun {a} apart => ?_
    cases a <;> simp_all [Attribute.name, Attribute.contentType?]
  · refine findSome?_optional read json (by decide) Tree.readAny_ok_iff Json.rightUnique_isPayload (fun _ => rfl)
      (fun _ => rfl) fun {a} apart => ?_
    cases a <;> simp_all [Attribute.name, Attribute.data?]
  · refine findSome?_optional read json (by decide) Tree.asText_ok_iff Json.rightUnique_isText (fun _ => rfl)
      (fun _ => rfl) fun {a} apart => ?_
    cases a <;> simp_all [Attribute.name, Attribute.encodedData?]

/-! ## Objects of distinct members -/

/-- Members of distinct names are read if each of them is. -/
theorem exists_readAttributes {seen : List String} {members : List (String × Nat × Tree)}
    (each : ∀ member ∈ members, ∃ a, readAttribute member.1 member.2.2 = .ok a)
    (distinct : (members.map Prod.fst).Nodup) (fresh : ∀ name ∈ members.map Prod.fst, name ∉ seen) :
    ∃ attributes, readAttributes seen members = .ok attributes := by
  induction members generalizing seen with
  | nil => exact ⟨[], rfl⟩
  | cons member rest ih =>
    obtain ⟨name, named, value⟩ := member
    obtain ⟨⟨first, one⟩, each⟩ := List.forall_mem_cons.1 each
    obtain ⟨new, distinct⟩ := List.nodup_cons.1 distinct
    obtain ⟨unseen, fresh⟩ := List.forall_mem_cons.1 fresh
    have unseen' : ∀ other ∈ rest.map Prod.fst, other ∉ name :: seen := by
      intro other mem
      rw [List.mem_cons, not_or]
      exact ⟨fun same => new (same ▸ mem), fresh other mem⟩
    obtain ⟨more, others⟩ := ih each distinct unseen'
    refine ⟨first :: more, ?_⟩
    rw [readAttributes, if_neg fun repeated => unseen repeated.2, one, others]
    rfl

section

variable {name : String} {tree : Tree} {raw : Json} (made : tree.toJson = .ok raw)

include made

theorem exists_of_text {wrap : String → Attribute} (member : readAttribute name tree = wrap <$> tree.asText)
    {text : String} (is : Option.Rel Json.IsText raw.nonNull? (some text)) :
    ∃ a, readAttribute name tree = .ok a := by
  refine ⟨wrap text, ?_⟩
  generalize found : raw.nonNull? = value? at is
  cases is with
  | some is =>
    rw [← Json.eq_of_nonNull? found] at is
    rw [member, (Tree.asText_ok_iff made).2 is]
    rfl

theorem exists_of_optional {β : Type} {R : Json → β → Prop} {reader : Tree → Except Fault β}
    {wrap : Option β → Attribute} (member : readAttribute name tree = wrap <$> tree.nullOr reader)
    (reads : ∀ {b}, reader tree = .ok b ↔ R raw b) {b? : Option β} (is : Option.Rel R raw.nonNull? b?) :
    ∃ a, readAttribute name tree = .ok a := by
  refine ⟨wrap b?, ?_⟩
  rw [member, (Tree.nullOr_ok_iff made reads).2 is]
  rfl

/-- A member of an object that an event has is read. -/
theorem Has.readable {members : Entries Json} {e : StructuredEvent} (has : Has members e)
    (distinct : (members.map Prod.fst).Nodup) (mem : (name, raw) ∈ members) :
    ∃ a, readAttribute name tree = .ok a := by
  have stated : Json.stated? name members = raw.nonNull? := by
    rw [Json.stated?, Entries.last?_eq_get? distinct, Entries.get?_of_mem distinct mem]
    rfl
  by_cases core : name ∈ coreNames
  · simp only [coreNames, List.mem_cons, List.not_mem_nil, or_false] at core
    rcases core with rfl | rfl | rfl | rfl | rfl | rfl | rfl | rfl | rfl | rfl
    · exact exists_of_text made rfl (stated ▸ has.specVersion)
    · exact exists_of_text made rfl (stated ▸ has.id)
    · exact exists_of_optional made rfl (Tree.asText_ok_iff made) (stated ▸ has.source)
    · exact exists_of_text made rfl (stated ▸ has.kind)
    · exact exists_of_optional made rfl (Tree.readInstant_ok_iff made) (stated ▸ has.time)
    · exact exists_of_optional made rfl (Tree.asText_ok_iff made) (stated ▸ has.subject)
    · exact exists_of_optional made rfl (Tree.asText_ok_iff made) (stated ▸ has.schema)
    · exact exists_of_optional made rfl (Tree.asText_ok_iff made) (stated ▸ has.contentType)
    · exact exists_of_optional made rfl (Tree.readAny_ok_iff made) (stated ▸ has.data)
    · exact exists_of_optional made rfl (Tree.asText_ok_iff made) (stated ▸ has.encodedData)
  · exact ⟨_, readAttribute_ok_iff.2 (.extension core ((Tree.readAny_ok_iff made).2 rfl))⟩

end

/-- **Reading an object.** Of an object of distinct members just the event is read that has what they say. -/
theorem ofTree_ok_iff {tree : Tree} {members : Entries Json} (distinct : (members.map Prod.fst).Nodup)
    (object : tree.toJson = .ok (.object members)) {e : StructuredEvent} :
    ofTree tree = .ok e ↔ Has members e := by
  cases Tree.worth_of_toJson object with | @object trees _ start stop each =>
  constructor
  · intro made
    obtain ⟨start, trees, stop, attributes, ⟨⟩, read, made⟩ := ofTree_ok made
    exact (ofAttributes_iff_has read each).1 made
  · intro has
    have pairs := Tree.membersToJson_ok each
    have names : trees.map Prod.fst = members.map Prod.fst := by
      exact map_eq_of_forall₂ pairs fun _ _ both => both.1
    have readable : ∀ member ∈ trees, ∃ a, readAttribute member.1 member.2.2 = .ok a := by
      intro member mem
      obtain ⟨⟨name, raw⟩, held, same, made⟩ := exists_of_forall₂ pairs mem
      exact has.readable made distinct (same ▸ held)
    obtain ⟨attributes, read⟩ := exists_readAttributes readable (names ▸ distinct) fun _ _ => List.not_mem_nil
    have made : ofAttributes attributes stop = .ok e := (ofAttributes_iff_has read each).2 has
    unfold ofTree
    dsimp only
    rw [read]
    exact made

end StructuredEvent

end BusRelay
