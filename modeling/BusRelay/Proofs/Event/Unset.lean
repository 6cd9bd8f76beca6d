import BusRelay.Proofs.Event.Converted
import BusRelay.Proofs.Event.Structured
/-!
# Members that are null

A member that is null and new to an object changes nothing of what is said under any name (`stated?_null`), and it can
be read unless it is one of the three that have to be texts (`readable_null`). So if it is one of the event's own
members, the same event is made with it as without it. Any other member is an extension, of which null is no text, and
no event is made at all (`makes_null_member`, `null_extension_refused`).
-/

namespace BusRelay

open Json (Tree Fault)

namespace Json

variable {before after : Entries Json} {name : String}

/-- What is new and null is not stated, and leaves what is stated as it is. -/
theorem stated?_null (new : name ∉ (before ++ after).map Prod.fst) (key : String) :
    stated? key (before ++ (name, .null) :: after) = stated? key (before ++ after) := by
  rw [stated?, stated?, Entries.last?_append, Entries.last?_append, Entries.last?]
  by_cases same : key = name
  · subst same
    rw [List.map_append, List.mem_append, not_or] at new
    rw [Entries.last?_eq_none_iff.2 new.1, Entries.last?_eq_none_iff.2 new.2, if_pos rfl]
    rfl
  · rw [if_neg same, Option.or_none]

end Json

namespace StructuredEvent

/-- The members that have to be there, and to be texts. -/
def neededNames : List String := ["specversion", "id", "type"]

/-- An event is made of the object that a tree is, with a source and a time for one that gives none. -/
def Makes (source : String) (time : Instant) (tree : Tree) (event : Event) : Prop :=
  ∃ e, ofTree tree = .ok e ∧ e.toEvent source time = .ok event

/-! ## Reading -/

/-- Every member can be read, and none of the event's own is repeated, also not from those before. -/
def Readable (seen : List String) (members : List (String × Nat × Tree)) : Prop :=
  ∃ attributes, readAttributes seen members = .ok attributes

theorem readable_cons {seen : List String} {name : String} {named : Nat} {value : Tree}
    {rest : List (String × Nat × Tree)} : Readable seen ((name, named, value) :: rest) ↔
      (name ∈ coreNames → name ∉ seen) ∧ (∃ a, readAttribute name value = .ok a) ∧ Readable (name :: seen) rest := by
  constructor
  · rintro ⟨attributes, read⟩
    obtain ⟨first, more, -, one, others, fresh⟩ := readAttributes_cons read
    exact ⟨fresh, ⟨first, readAttribute_ok_iff.2 one⟩, more, others⟩
  · rintro ⟨fresh, ⟨first, one⟩, more, others⟩
    refine ⟨first :: more, ?_⟩
    rw [readAttributes, if_neg fun repeated => fresh repeated.1 repeated.2, one, others]
    rfl

/-- Of the names before, only those matter that come again. -/
theorem readable_seen {seen seen' : List String} {members : List (String × Nat × Tree)}
    (same : ∀ name ∈ members.map Prod.fst, (name ∈ seen ↔ name ∈ seen')) :
    Readable seen members ↔ Readable seen' members := by
  induction members generalizing seen seen' with
  | nil => exact ⟨fun _ => ⟨[], rfl⟩, fun _ => ⟨[], rfl⟩⟩
  | cons member rest ih =>
    obtain ⟨name, named, value⟩ := member
    obtain ⟨here, later⟩ := List.forall_mem_cons.1 same
    have rest' : Readable (name :: seen) rest ↔ Readable (name :: seen') rest := by
      apply ih
      intro other mem
      rw [List.mem_cons, List.mem_cons, later other mem]
    rw [readable_cons, readable_cons, here, rest']

/-- Null can be read under every name but those of the members that are needed. -/
theorem exists_readAttribute_null {name : String} (optional : name ∉ neededNames) (stop : Nat) :
    ∃ a, readAttribute name (.null stop) = .ok a := by
  by_cases core : name ∈ coreNames
  · simp only [neededNames, coreNames, List.mem_cons, List.not_mem_nil, or_false, not_or] at optional core
    rcases core with rfl | rfl | rfl | rfl | rfl | rfl | rfl | rfl | rfl | rfl
    · exact absurd rfl optional.1
    · exact absurd rfl optional.2.1
    · exact ⟨.source none, rfl⟩
    · exact absurd rfl optional.2.2
    · exact ⟨.time none, rfl⟩
    · exact ⟨.subject none, rfl⟩
    · exact ⟨.schema none, rfl⟩
    · exact ⟨.contentType none, rfl⟩
    · exact ⟨.data none, rfl⟩
    · exact ⟨.encodedData none, rfl⟩
  · exact ⟨.extension name .null, readAttribute_other core (.null stop)⟩

/-- A new member that is null can be read wherever it is put among others. -/
theorem readable_null {name : String} (optional : name ∉ neededNames) (named stop : Nat)
    {front back : List (String × Nat × Tree)} (new : name ∉ (front ++ back).map Prod.fst) {seen : List String}
    (unseen : name ∉ seen) :
    Readable seen (front ++ (name, named, .null stop) :: back) ↔ Readable seen (front ++ back) := by
  induction front generalizing seen with
  | nil =>
    have later : Readable (name :: seen) back ↔ Readable seen back := by
      apply readable_seen
      intro other mem
      have apart : other ≠ name := fun same => new (same ▸ mem)
      rw [List.mem_cons, or_iff_right apart]
    rw [List.nil_append, List.nil_append, readable_cons, later]
    exact ⟨fun all => all.2.2, fun back => ⟨fun _ => unseen, exists_readAttribute_null optional stop, back⟩⟩
  | cons member front ih =>
    obtain ⟨key, at_, value⟩ := member
    rw [List.cons_append, List.map_cons, List.mem_cons, not_or] at new
    have unseen' : name ∉ key :: seen := by
      rw [List.mem_cons, not_or]
      exact ⟨new.1, unseen⟩
    rw [List.cons_append, List.cons_append, readable_cons, readable_cons, ih new.2 unseen']

/-- An event is read from an object if its members can be read and it has what they say. -/
theorem ofTree_object_iff {start stop : Nat} {trees : List (String × Nat × Tree)} {members : Entries Json}
    (each : Tree.membersToJson trees = .ok members) {e : StructuredEvent} :
    ofTree (.object start trees (.ok stop)) = .ok e ↔ Readable [] trees ∧ Has members e := by
  constructor
  · intro made
    obtain ⟨_, _, _, attributes, ⟨⟩, read, made⟩ := ofTree_ok made
    exact ⟨⟨attributes, read⟩, (ofAttributes_iff_has read each).1 made⟩
  · rintro ⟨⟨attributes, read⟩, has⟩
    have made : ofAttributes attributes stop = .ok e := (ofAttributes_iff_has read each).2 has
    unfold ofTree
    dsimp only
    rw [read]
    exact made

/-! ## What is said -/

variable {before after : Entries Json} {name : String}

/-- One of the event's own members says nothing if it is null. -/
theorem has_null_core (new : name ∉ (before ++ after).map Prod.fst) (core : name ∈ coreNames)
    {e : StructuredEvent} : Has (before ++ (name, .null) :: after) e ↔ Has (before ++ after) e := by
  have same : others (before ++ (name, .null) :: after) = others (before ++ after) := by
    simp [others, List.filter_append, core]
  simp only [has_iff, Json.stated?_null new, same]

/-- Under a new name of another kind there is null, and under every other name what there was. -/
theorem get?_others_null (new : name ∉ (before ++ after).map Prod.fst) (other : name ∉ coreNames) (key : String) :
    (Dict.ofList (others (before ++ (name, .null) :: after))).get? key =
      if key = name then some .null else (Dict.ofList (others (before ++ after))).get? key := by
  rw [get?_others, get?_others, Entries.last?_append, Entries.last?_append, Entries.last?]
  by_cases same : key = name
  · subst same
    rw [List.map_append, List.mem_append, not_or] at new
    rw [if_neg other, if_pos rfl, if_pos rfl, Entries.last?_eq_none_iff.2 new.2]
    rfl
  · rw [if_neg same, if_neg same, Option.or_none]

/-- A member of another kind is one extension more, and nothing else. -/
theorem has_null_other (new : name ∉ (before ++ after).map Prod.fst) {e : StructuredEvent} :
    Has (before ++ (name, .null) :: after) e ↔
      Has (before ++ after) { e with extensions := Dict.ofList (others (before ++ after)) } ∧
        Dict.ofList (others (before ++ (name, .null) :: after)) = e.extensions := by
  simp only [has_iff, Json.stated?_null new, and_true, and_assoc]

/-! ## Converting -/

variable {source : String} {time : Instant}

/-- Null has no text. -/
theorem not_scalar_null (text : String) : ¬ Scalar .null text := nofun

/-- Among extensions that have texts, one that is null is reported. -/
theorem scalarEntries_null {entries : Entries Json}
    (each : ∀ entry ∈ entries, entry = (name, .null) ∨ ∃ text, Scalar entry.2 text) (mem : (name, .null) ∈ entries) :
    scalarEntries entries = .error (.notScalar name) := by
  induction entries with
  | nil => cases mem
  | cons entry rest ih =>
    obtain ⟨key, value⟩ := entry
    obtain ⟨here, each⟩ := List.forall_mem_cons.1 each
    rw [scalarEntries]
    rcases here with null | ⟨text, scalar⟩
    · cases null
      rfl
    · rw [scalarText?_eq_some.2 scalar]
      dsimp only
      have later : (name, .null) ∈ rest := by
        rcases List.mem_cons.1 mem with same | later
        · cases same
          exact absurd scalar (not_scalar_null text)
        · exact later
      rw [ih each later]
      rfl

/-- An event with an extension that is null is not converted. -/
theorem toEvent_null_other (new : name ∉ (before ++ after).map Prod.fst) (other : name ∉ coreNames)
    {e : StructuredEvent} (has : Has (before ++ (name, .null) :: after) e) (event : Event) :
    e.toEvent source time ≠ .ok event := by
  intro made
  obtain ⟨-, extensions, -⟩ := toEvent_ok_iff.1 made
  have rel := extensions_iff.1 extensions name
  rw [← has.extensions, get?_others_null new other, if_pos rfl] at rel
  generalize event.extensions.get? name = text? at rel
  rcases rel with ⟨scalar⟩
  exact not_scalar_null _ scalar

/-- If it would be converted without this extension, the extension is what is reported. -/
theorem toEvent_null_fault (new : name ∉ (before ++ after).map Prod.fst) (other : name ∉ coreNames)
    {e : StructuredEvent} (has : Has (before ++ (name, .null) :: after) e) {event : Event}
    (made : { e with extensions := Dict.ofList (others (before ++ after)) }.toEvent source time = .ok event) :
    e.toEvent source time = .error (.notScalar name) := by
  obtain ⟨payload, extensions, -⟩ := toEvent_ok_iff.1 made
  have found (key : String) : e.extensions.get? key =
      if key = name then some .null else (Dict.ofList (others (before ++ after))).get? key := by
    rw [← has.extensions]
    exact get?_others_null new other key
  have null : (name, .null) ∈ e.extensions.entries :=
    e.extensions.ascending.get?_eq_some_iff.1 ((found name).trans (if_pos rfl))
  have each : ∀ entry ∈ e.extensions.entries, entry = (name, .null) ∨ ∃ text, Scalar entry.2 text := by
    rintro ⟨key, value⟩ mem
    have held := (found key).symm.trans (e.extensions.ascending.get?_eq_some_iff.2 mem)
    by_cases same : key = name
    · rw [if_pos same] at held
      cases held
      exact .inl (same ▸ rfl)
    · rw [if_neg same] at held
      have rel := extensions_iff.1 extensions key
      rw [held] at rel
      generalize event.extensions.get? key = text? at rel
      rcases rel with ⟨scalar⟩
      exact .inr ⟨_, scalar⟩
  have payload' : e.payload = .ok event.payload := payload
  unfold toEvent
  rw [payload', scalarEntries_null each null]
  rfl

/-! ## Objects -/

/-- What a new member that is null changes: the object can be read with it if it can be without; one of the event's own
members changes no event; and with any other there is none, and it is reported where there would be one without it. -/
structure Nulled (source : String) (time : Instant) (name : String) (bare nulled : Tree) : Prop where
  read_iff : (∃ e, ofTree nulled = .ok e) ↔ ∃ e, ofTree bare = .ok e
  makes_iff : ∀ event, Makes source time nulled event ↔ name ∈ coreNames ∧ Makes source time bare event
  fault : name ∉ coreNames → ∀ event, Makes source time bare event →
    ∃ e, ofTree nulled = .ok e ∧ e.toEvent source time = .error (.notScalar name)

/-- With a new member that is null and without it, the same has to be readable, and each event has what is said. -/
theorem ofTree_null_iff (new : name ∉ (before ++ after).map Prod.fst) (optional : name ∉ neededNames)
    {bare nulled : Tree} (without : bare.toJson = .ok (.object (before ++ after)))
    (added : nulled.toJson = .ok (.object (before ++ (name, .null) :: after))) :
    ∃ trees, (∀ e, ofTree bare = .ok e ↔ Readable [] trees ∧ Has (before ++ after) e) ∧
      ∀ e, ofTree nulled = .ok e ↔ Readable [] trees ∧ Has (before ++ (name, .null) :: after) e := by
  cases Tree.worth_of_toJson added with | @object trees _ start stop each =>
  obtain ⟨front, named, value, back, rfl, null, outer⟩ := Tree.membersToJson_middle each
  obtain ⟨stop', rfl⟩ : ∃ stop', value = .null stop' := by
    cases Tree.worth_of_toJson null with
    | null stop' => exact ⟨stop', rfl⟩
  have names : (front ++ back).map Prod.fst = (before ++ after).map Prod.fst :=
    map_eq_of_forall₂ (Tree.membersToJson_ok outer) fun _ _ both => both.1
  -- the same object without the member, where the one with it stands
  have alike : Tree.Alike bare (.object start (front ++ back) (.ok stop)) := by
    apply Tree.alike_of_toJson without
    rw [Tree.toJson, outer]
    rfl
  refine ⟨front ++ back, fun e => ?_, fun e => ?_⟩
  · rw [← toOption_eq_some, sees_ofTree.same alike, toOption_eq_some]
    exact ofTree_object_iff outer
  · rw [ofTree_object_iff each, readable_null optional named stop' (names ▸ new) List.not_mem_nil]

theorem nulled_of_members (new : name ∉ (before ++ after).map Prod.fst) (optional : name ∉ neededNames)
    {bare nulled : Tree} (without : bare.toJson = .ok (.object (before ++ after)))
    (added : nulled.toJson = .ok (.object (before ++ (name, .null) :: after))) :
    Nulled source time name bare nulled := by
  obtain ⟨trees, plain, extended⟩ := ofTree_null_iff new optional without added
  by_cases core : name ∈ coreNames
  · have same (e : StructuredEvent) : ofTree nulled = .ok e ↔ ofTree bare = .ok e := by
      rw [plain, extended, has_null_core new core]
    constructor
    case read_iff => simp only [same]
    case makes_iff =>
      intro event
      rw [and_iff_right core]
      unfold Makes
      simp only [same]
    case fault => exact fun other => absurd core other
  · constructor
    case read_iff =>
      constructor
      · rintro ⟨e, read⟩
        obtain ⟨readable, has⟩ := (extended e).1 read
        exact ⟨_, (plain _).2 ⟨readable, ((has_null_other new).1 has).1⟩⟩
      · rintro ⟨e, read⟩
        obtain ⟨readable, has⟩ := (plain e).1 read
        refine ⟨{ e with extensions := _ }, (extended _).2 ⟨readable, (has_null_other new).2 ⟨?_, rfl⟩⟩⟩
        rw [has.extensions]
        exact has
    case makes_iff =>
      intro event
      constructor
      · rintro ⟨e, read, made⟩
        exact absurd made (toEvent_null_other new core ((extended e).1 read).2 event)
      · exact fun both => absurd both.1 core
    case fault =>
      rintro - event ⟨e, read, made⟩
      obtain ⟨readable, has⟩ := (plain e).1 read
      let e' : StructuredEvent :=
        { e with extensions := Dict.ofList (others (before ++ (name, .null) :: after)) }
      have bare' : { e' with extensions := Dict.ofList (others (before ++ after)) } = e := by
        rw [has.extensions]
      have has' : Has (before ++ (name, .null) :: after) e' := (has_null_other new).2 ⟨bare' ▸ has, rfl⟩
      exact ⟨e', (extended e').2 ⟨readable, has'⟩, toEvent_null_fault new core has' (bare' ▸ made)⟩

/-- **Null members.** To an object of any members one is added that is null, at any place and under a new name that is
none of the three that are needed. Then the object is read as an event just if it was before. If the member is one of
the event's own, the same event is made of it as before, or none as before; it is as if it were not there. But if it is
any other, no event is made of it, whatever was made before, and where one was made it is reported that the member is no
scalar. So it is for a text that writes the object with the member, and one that writes it without. -/
theorem makes_null_member (new : name ∉ (before ++ after).map Prod.fst) (optional : name ∉ neededNames)
    (source : String) (time : Instant) :
    (∀ bare nulled : Tree, bare.toJson = .ok (.object (before ++ after)) →
      nulled.toJson = .ok (.object (before ++ (name, .null) :: after)) → Nulled source time name bare nulled) ∧
    ∀ text text', Json.decodeWith Tree.toJson text = .ok (.object (before ++ after)) →
      Json.decodeWith Tree.toJson text' = .ok (.object (before ++ (name, .null) :: after)) →
      ∃ bare nulled, decode text = ofTree bare ∧ decode text' = ofTree nulled ∧
        Nulled source time name bare nulled := by
  refine ⟨fun bare nulled without added => nulled_of_members new optional without added, ?_⟩
  intro text text' written written'
  obtain ⟨bare, without, read⟩ := Json.exists_tree_of_written written
  obtain ⟨nulled, added, read'⟩ := Json.exists_tree_of_written written'
  exact ⟨bare, nulled, read ofTree, read' ofTree, nulled_of_members new optional without added⟩

namespace Sample

/-- The members that are needed, and nothing else. -/
def needed : Entries Json :=
  [("specversion", .string "1.0"), ("id", .string "e1"), ("type", .string "created")]

def neededText : Utf8.Bytes := Utf8.bytes "\x7b\"specversion\":\"1.0\",\"id\":\"e1\",\"type\":\"created\"\x7d"

/-- The same with a member that is null. -/
def nulledText (name : String) : Utf8.Bytes := Utf8.bytes
  ("\x7b\"specversion\":\"1.0\",\"id\":\"e1\",\"type\":\"created\",\"" ++ name ++ "\":null\x7d")

theorem written_neededText : Json.decodeWith Tree.toJson neededText = .ok (.object (needed ++ [])) := rfl

end Sample

/-- With a subject that is null there is the event that there is without it. -/
theorem makes_null_member_subject :
    "subject" ∉ (Sample.needed ++ []).map Prod.fst ∧ "subject" ∉ neededNames ∧
    Json.decodeWith Tree.toJson (Sample.nulledText "subject") = .ok (.object (Sample.needed ++ [("subject", .null)])) ∧
    ∃ e e' event, decode Sample.neededText = .ok e ∧ e.toEvent "queue" .epoch = .ok event ∧
      decode (Sample.nulledText "subject") = .ok e' ∧ e'.toEvent "queue" .epoch = .ok event := by
  have new : "subject" ∉ (Sample.needed ++ []).map Prod.fst := by decide
  have optional : "subject" ∉ neededNames := by decide
  have written : Json.decodeWith Tree.toJson (Sample.nulledText "subject") =
      .ok (.object (Sample.needed ++ [("subject", .null)])) := rfl
  obtain ⟨bare, nulled, without, added, changes⟩ :=
    (makes_null_member new optional "queue" .epoch).2 _ _ Sample.written_neededText written
  obtain ⟨e, event, read, made⟩ : ∃ e event, decode Sample.neededText = .ok e ∧
      e.toEvent "queue" .epoch = .ok event := ⟨_, _, rfl, rfl⟩
  have core : "subject" ∈ coreNames := by decide
  obtain ⟨e', read', made'⟩ := (changes.makes_iff event).2 ⟨core, e, without ▸ read, made⟩
  exact ⟨new, optional, written, e, e', event, read, made, added ▸ read', made'⟩

/-- With an extension that is null there is no event, although there is one without it. -/
theorem null_extension_refused :
    Json.decodeWith Tree.toJson Sample.neededText = .ok (.object (Sample.needed ++ [])) ∧
    Json.decodeWith Tree.toJson (Sample.nulledText "tenant") = .ok (.object (Sample.needed ++ [("tenant", .null)])) ∧
    (∃ e event, decode Sample.neededText = .ok e ∧ e.toEvent "queue" .epoch = .ok event) ∧
    ∃ e, decode (Sample.nulledText "tenant") = .ok e ∧
      e.toEvent "queue" .epoch = .error (.notScalar "tenant") :=
  ⟨rfl, rfl, ⟨_, _, rfl, rfl⟩, _, rfl, rfl⟩

end StructuredEvent

end BusRelay
