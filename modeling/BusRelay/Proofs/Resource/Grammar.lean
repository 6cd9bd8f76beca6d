import BusRelay.Proofs.Except
import BusRelay.Proofs.Json.RoundTrip
import BusRelay.Proofs.Json.Tree
import BusRelay.Proofs.Text.Fields
import BusRelay.Resource.Id
/-!
# The grammar of resource IDs

A text is a resource ID just if it is ten or twelve segments, a slash before each of them, that are not empty and
have the keywords in their places, in any letter case (`exists_parse_iff`). What is read is the segments with the
keywords in one spelling (`parse_ok_iff`), and so is what is written again. A resource comes back from its text and
from its JSON text (`parse_text`, `decode_string`).
-/

namespace BusRelay.ResourceId

/-! ## Segments -/

/-- A segment is not empty and has no slash in it. -/
def IsSegment (s : String) : Prop := s ≠ "" ∧ '/' ∉ s.toList

instance (s : String) : Decidable (IsSegment s) := inferInstanceAs (Decidable (_ ∧ _))

/-- A slash before each of the segments. -/
def written (segments : List String) : String := String.join (segments.map ("/" ++ ·))

/-- The keywords with their places, counted from zero. -/
def keywords : List (Nat × String) :=
  [(0, "subscriptions"), (2, "resourceGroups"), (4, "providers"), (6, "namespaces")]

/-- The segments of a resource ID. -/
structure WellFormed (segments : List String) : Prop where
  count : segments.length = 10 ∨ segments.length = 12
  each : ∀ s ∈ segments, IsSegment s
  keyword : ∀ k ∈ keywords, ∃ s, segments[k.1]? = some s ∧ sameLetters s k.2 = true

/-- The segments with each keyword as it is written. -/
def respelled (segments : List String) : List String :=
  keywords.foldl (fun spelled k => spelled.set k.1 k.2) segments

/-- What a resource names, without the keywords. -/
def fields (id : ResourceId) : List String :=
  [id.subscription, id.group, id.provider, id.space, id.kind, id.name] ++
  match id.child with
  | some (kind, name) => [kind, name]
  | none => []

/-- Each field can be a segment. -/
def Proper (id : ResourceId) : Prop := ∀ s ∈ id.fields, IsSegment s

instance (id : ResourceId) : Decidable id.Proper := inferInstanceAs (Decidable (∀ s ∈ id.fields, IsSegment s))

/-- The segments of a resource with these words for the keywords. -/
def spelled (k₁ k₂ k₃ k₄ : String) (id : ResourceId) : List String :=
  [k₁, id.subscription, k₂, id.group, k₃, id.provider, k₄, id.space, id.kind, id.name] ++
  match id.child with
  | some (kind, name) => [kind, name]
  | none => []

section

variable {k₁ k₂ k₃ k₄ : String} {id : ResourceId} {segments : List String}

theorem segments_eq (id : ResourceId) :
    id.segments = spelled "subscriptions" "resourceGroups" "providers" "namespaces" id := rfl

theorem text_eq (id : ResourceId) : id.text = written id.segments := rfl

theorem length_spelled : (spelled k₁ k₂ k₃ k₄ id).length = 10 ∨ (spelled k₁ k₂ k₃ k₄ id).length = 12 := by
  unfold spelled
  cases id.child with
  | none => exact .inl rfl
  | some child => exact .inr rfl

theorem respelled_spelled (k₁ k₂ k₃ k₄ : String) (id : ResourceId) :
    respelled (spelled k₁ k₂ k₃ k₄ id) = id.segments := by
  rw [segments_eq]
  unfold spelled
  cases id.child with
  | none => rfl
  | some child => rfl

/-- Ten or twelve segments name a resource, whatever stands for the keywords. -/
theorem exists_spelled (count : segments.length = 10 ∨ segments.length = 12) :
    ∃ k₁ k₂ k₃ k₄ id, segments = spelled k₁ k₂ k₃ k₄ id := by
  rcases count with ten | twelve
  · match segments, ten with
    | [k₁, subscription, k₂, group, k₃, provider, k₄, space, kind, name], _ =>
      exact ⟨k₁, k₂, k₃, k₄, ⟨subscription, group, provider, space, kind, name, none⟩, rfl⟩
  · match segments, twelve with
    | [k₁, subscription, k₂, group, k₃, provider, k₄, space, kind, name, childKind, childName], _ =>
      exact ⟨k₁, k₂, k₃, k₄, ⟨subscription, group, provider, space, kind, name, some (childKind, childName)⟩, rfl⟩

/-- A word that has the letters of a keyword can be a segment. -/
theorem isSegment_of_sameLetters {s word : String} (same : sameLetters s word = true)
    (letters : word.toList.map Char.toLower ≠ [] ∧ '/' ∉ word.toList.map Char.toLower) : IsSegment s := by
  have lower : s.toList.map Char.toLower = word.toList.map Char.toLower := of_decide_eq_true same
  rw [← lower] at letters
  constructor
  · rintro rfl
    exact letters.1 rfl
  · intro slash
    exact letters.2 (List.mem_map.2 ⟨'/', slash, rfl⟩)

/-- The four words have the letters of the keywords. -/
structure AreKeywords (k₁ k₂ k₃ k₄ : String) : Prop where
  subscriptions : sameLetters k₁ "subscriptions" = true
  resourceGroups : sameLetters k₂ "resourceGroups" = true
  providers : sameLetters k₃ "providers" = true
  namespaces : sameLetters k₄ "namespaces" = true

theorem AreKeywords.written : AreKeywords "subscriptions" "resourceGroups" "providers" "namespaces" :=
  ⟨by decide, by decide, by decide, by decide⟩

theorem keyword_spelled : (∀ k ∈ keywords, ∃ s, (spelled k₁ k₂ k₃ k₄ id)[k.1]? = some s ∧
    sameLetters s k.2 = true) ↔ AreKeywords k₁ k₂ k₃ k₄ := by
  constructor
  · intro each
    simp only [keywords, spelled, List.forall_mem_cons] at each
    obtain ⟨⟨_, ⟨⟩, first⟩, ⟨_, ⟨⟩, second⟩, ⟨_, ⟨⟩, third⟩, ⟨_, ⟨⟩, fourth⟩, -⟩ := each
    exact ⟨first, second, third, fourth⟩
  · intro are
    simp only [keywords, spelled, List.forall_mem_cons]
    exact ⟨⟨_, rfl, are.subscriptions⟩, ⟨_, rfl, are.resourceGroups⟩, ⟨_, rfl, are.providers⟩,
      ⟨_, rfl, are.namespaces⟩, List.forall_mem_nil _⟩

theorem mem_spelled {s : String} :
    s ∈ spelled k₁ k₂ k₃ k₄ id ↔ s = k₁ ∨ s = k₂ ∨ s = k₃ ∨ s = k₄ ∨ s ∈ id.fields := by
  simp only [spelled, fields, List.mem_append, List.mem_cons, List.not_mem_nil, or_false]
  grind

theorem wellFormed_spelled :
    WellFormed (spelled k₁ k₂ k₃ k₄ id) ↔ AreKeywords k₁ k₂ k₃ k₄ ∧ id.Proper := by
  constructor
  · intro well
    refine ⟨keyword_spelled.1 well.keyword, fun s mem => well.each s ?_⟩
    exact mem_spelled.2 (.inr (.inr (.inr (.inr mem))))
  · rintro ⟨are, proper⟩
    refine ⟨length_spelled, fun s mem => ?_, keyword_spelled.2 are⟩
    rcases mem_spelled.1 mem with rfl | rfl | rfl | rfl | mem
    · exact isSegment_of_sameLetters are.subscriptions (by decide)
    · exact isSegment_of_sameLetters are.resourceGroups (by decide)
    · exact isSegment_of_sameLetters are.providers (by decide)
    · exact isSegment_of_sameLetters are.namespaces (by decide)
    · exact proper s mem

/-- The segments of a resource ID are those of a resource, whatever the letter case of the keywords. -/
theorem WellFormed.exists_spelled (well : WellFormed segments) :
    ∃ k₁ k₂ k₃ k₄ id, segments = spelled k₁ k₂ k₃ k₄ id ∧ AreKeywords k₁ k₂ k₃ k₄ ∧ id.Proper := by
  obtain ⟨k₁, k₂, k₃, k₄, id, rfl⟩ := ResourceId.exists_spelled well.count
  exact ⟨k₁, k₂, k₃, k₄, id, rfl, wellFormed_spelled.1 well⟩

/-! ## Reading -/

theorem checkKeyword_ok_iff {segment expected : String} {place : Nat} :
    checkKeyword segment expected place = .ok () ↔ sameLetters segment expected = true := by
  unfold checkKeyword
  constructor
  · intro ok
    split at ok
    · assumption
    · cases ok
  · intro same
    exact if_pos same

/-- A resource passes the four checks if the words have the letters of the keywords. -/
theorem checks_ok_iff {resource : ResourceId} : (do
      checkKeyword k₁ "subscriptions" 1
      checkKeyword k₂ "resourceGroups" 3
      checkKeyword k₃ "providers" 5
      checkKeyword k₄ "namespaces" 7
      return resource : Except ResourceFault ResourceId) = .ok id ↔ AreKeywords k₁ k₂ k₃ k₄ ∧ resource = id := by
  constructor
  · intro ok
    obtain ⟨_, first, ok⟩ := bind_ok ok
    obtain ⟨_, second, ok⟩ := bind_ok ok
    obtain ⟨_, third, ok⟩ := bind_ok ok
    obtain ⟨_, fourth, ok⟩ := bind_ok ok
    exact ⟨⟨checkKeyword_ok_iff.1 first, checkKeyword_ok_iff.1 second, checkKeyword_ok_iff.1 third,
      checkKeyword_ok_iff.1 fourth⟩, Except.ok.inj ok⟩
  · rintro ⟨are, rfl⟩
    rw [checkKeyword_ok_iff.2 are.subscriptions, checkKeyword_ok_iff.2 are.resourceGroups,
      checkKeyword_ok_iff.2 are.providers, checkKeyword_ok_iff.2 are.namespaces]
    rfl

/-- Segments are read as a resource if they are its segments, whatever the letter case of the keywords. -/
theorem ofSegments_ok_iff : ofSegments segments = .ok id ↔
    ∃ k₁ k₂ k₃ k₄, segments = spelled k₁ k₂ k₃ k₄ id ∧ AreKeywords k₁ k₂ k₃ k₄ := by
  constructor
  · intro ok
    unfold ofSegments at ok
    split at ok
    · rename_i k₁ subscription k₂ group k₃ provider k₄ space kind name rest
      dsimp only at ok
      split at ok
      · rw [pure_bind] at ok
        obtain ⟨are, rfl⟩ := checks_ok_iff.1 ok
        exact ⟨k₁, k₂, k₃, k₄, rfl, are⟩
      · rw [pure_bind] at ok
        obtain ⟨are, rfl⟩ := checks_ok_iff.1 ok
        exact ⟨k₁, k₂, k₃, k₄, rfl, are⟩
      · cases ok
    · cases ok
  · rintro ⟨k₁, k₂, k₃, k₄, rfl, are⟩
    obtain ⟨subscription, group, provider, space, kind, name, child⟩ := id
    cases child with
    | none => exact checks_ok_iff.2 ⟨are, rfl⟩
    | some child => exact checks_ok_iff.2 ⟨are, rfl⟩

theorem written_eq (ne : segments ≠ []) :
    (written segments).toList = '/' :: Fields.join '/' (segments.map String.toList) := by
  have slash : "/".toList = ['/'] := rfl
  induction segments with
  | nil => exact absurd rfl ne
  | cons s segments ih =>
    rw [written, List.map_cons, String.join_cons, String.toList_append, String.toList_append, slash,
      List.map_cons, ← written]
    cases segments with
    | nil => simp [written, Fields.join]
    | cons next segments =>
      rw [ih (List.cons_ne_nil next segments)]
      rfl

/-- A text has these segments if it is a slash before each of them. -/
theorem segments?_ok_iff {s : String} :
    segments? s = .ok segments ↔ segments ≠ [] ∧ (∀ x ∈ segments, IsSegment x) ∧ s = written segments := by
  constructor
  · intro ok
    unfold segments? at ok
    split at ok
    · rename_i rest text
      dsimp only at ok
      split at ok
      · cases ok
      · rename_i full
        cases ok
        have ne : (Fields.split '/' rest).map String.ofList ≠ [] :=
          mt List.map_eq_nil_iff.1 (Fields.split_ne_nil '/' rest)
        refine ⟨ne, fun x mem => ⟨fun empty => full (empty ▸ mem), ?_⟩, ?_⟩
        · obtain ⟨field, among, rfl⟩ := List.mem_map.1 mem
          rw [String.toList_ofList]
          exact Fields.not_mem_of_mem_split among
        · apply String.toList_inj.1
          have back : ((Fields.split '/' rest).map String.ofList).map String.toList = Fields.split '/' rest := by
            simp [Function.comp_def]
          rw [text, written_eq ne, back, Fields.join_split]
    · cases ok
  · rintro ⟨ne, each, rfl⟩
    have split : Fields.split '/' (Fields.join '/' (segments.map String.toList)) = segments.map String.toList := by
      refine Fields.split_join (mt List.map_eq_nil_iff.1 ne) fun field mem => ?_
      obtain ⟨x, among, rfl⟩ := List.mem_map.1 mem
      exact (each x among).2
    have back : (segments.map String.toList).map String.ofList = segments := by simp [Function.comp_def]
    have full : "" ∉ segments := fun empty => (each "" empty).1 rfl
    unfold segments?
    rw [written_eq ne]
    change (if "" ∈ (Fields.split '/' (Fields.join '/' (segments.map String.toList))).map String.ofList then _
      else _) = _
    rw [split, back, if_neg full]

/-- A text is read as a resource if it is its segments, whatever the letter case of the keywords. -/
theorem parse_ok_iff {s : String} : parse s = .ok id ↔
    id.Proper ∧ ∃ k₁ k₂ k₃ k₄, AreKeywords k₁ k₂ k₃ k₄ ∧ s = written (spelled k₁ k₂ k₃ k₄ id) := by
  have read : parse s = .ok id ↔ (segments? s >>= ofSegments) = .ok id := by
    unfold parse
    cases segments? s >>= ofSegments with
    | error fault => exact ⟨nofun, nofun⟩
    | ok other => exact ⟨fun ok => by cases ok; rfl, fun ok => by cases ok; rfl⟩
  rw [read]
  constructor
  · intro ok
    obtain ⟨segments, found, ok⟩ := bind_ok ok
    obtain ⟨-, each, text⟩ := segments?_ok_iff.1 found
    obtain ⟨k₁, k₂, k₃, k₄, rfl, are⟩ := ofSegments_ok_iff.1 ok
    have well : WellFormed (spelled k₁ k₂ k₃ k₄ id) := ⟨length_spelled, each, keyword_spelled.2 are⟩
    exact ⟨(wellFormed_spelled.1 well).2, k₁, k₂, k₃, k₄, are, text⟩
  · rintro ⟨proper, k₁, k₂, k₃, k₄, are, text⟩
    have well : WellFormed (spelled k₁ k₂ k₃ k₄ id) := wellFormed_spelled.2 ⟨are, proper⟩
    have ne : spelled k₁ k₂ k₃ k₄ id ≠ [] := List.cons_ne_nil _ _
    rw [segments?_ok_iff.2 ⟨ne, well.each, text⟩]
    exact ofSegments_ok_iff.2 ⟨k₁, k₂, k₃, k₄, rfl, are⟩

/-- A text is read as some resource just if it is the segments of a resource ID. -/
theorem exists_parse_iff {s : String} :
    (∃ id, parse s = .ok id) ↔ ∃ segments, WellFormed segments ∧ s = written segments := by
  constructor
  · rintro ⟨id, ok⟩
    obtain ⟨proper, k₁, k₂, k₃, k₄, are, text⟩ := parse_ok_iff.1 ok
    exact ⟨spelled k₁ k₂ k₃ k₄ id, wellFormed_spelled.2 ⟨are, proper⟩, text⟩
  · rintro ⟨segments, well, text⟩
    obtain ⟨k₁, k₂, k₃, k₄, id, rfl, are, proper⟩ := well.exists_spelled
    exact ⟨id, parse_ok_iff.2 ⟨proper, k₁, k₂, k₃, k₄, are, text⟩⟩

/-- A resource comes back from its text. -/
theorem parse_text (proper : id.Proper) : parse id.text = .ok id :=
  parse_ok_iff.2 ⟨proper, _, _, _, _, .written, rfl⟩

/-- A JSON text is read as the resource that its value is read as. -/
theorem decode_string (s : String) : decode (Utf8.bytes (Json.string s).text) =
    match parse s with
    | .ok id => .ok id
    | .error fault => .error ⟨.refused fault.message, none⟩ := by
  obtain ⟨tree, whole, read⟩ := Json.decodeWith_text (.string Json.maxDepth s) (.string s)
  unfold decode
  rw [read]
  cases Json.Tree.worth_of_toJson whole with
  | string _ stop =>
    change (match parse s with
      | .ok id => pure id
      | .error fault => throw ⟨.refused fault.message, none⟩ : Except Json.Fault ResourceId) = _
    cases parse s with
    | ok id => rfl
    | error fault => rfl

end

/-- **Resource IDs are read and written.** A text is read as a resource just if it is ten or twelve segments with a
slash before each, none of them empty, and the keywords stand in their places in any letter case. A resource whose
fields can be segments comes back from its text and from its JSON text. What was read is written as the text that it
was read from, but for the spelling of the keywords, and is read from this again. -/
theorem read_and_written :
    (∀ s, (∃ id, parse s = .ok id) ↔ ∃ segments, WellFormed segments ∧ s = written segments) ∧
    (∀ id : ResourceId, id.Proper → parse id.text = .ok id ∧ decode (Utf8.bytes id.encode) = .ok id) ∧
    (∀ s id, parse s = .ok id → parse id.text = .ok id ∧
      ∃ segments, WellFormed segments ∧ s = written segments ∧ id.text = written (respelled segments)) := by
  refine ⟨fun s => exists_parse_iff, fun id proper => ⟨parse_text proper, ?_⟩, fun s id ok => ?_⟩
  · rw [encode, decode_string, parse_text proper]
  · obtain ⟨proper, k₁, k₂, k₃, k₄, are, text⟩ := parse_ok_iff.1 ok
    refine ⟨parse_text proper, spelled k₁ k₂ k₃ k₄ id, wellFormed_spelled.2 ⟨are, proper⟩, text, ?_⟩
    rw [text_eq, respelled_spelled]

namespace Sample

/-- A subscription with a blank in the name of its topic and another letter than those of ASCII in its own. -/
def resource : ResourceId where
  subscription := "s"
  group := "rg"
  provider := "Microsoft.ServiceBus"
  space := "ns1"
  kind := "topics"
  name := "t 1"
  child := some ("subscriptions", "é")

/-- Its segments with the keywords in other letter cases. -/
def segments : List String := spelled "SUBSCRIPTIONS" "resourcegroups" "Providers" "nameSpaces" resource

end Sample

/-- A resource ID with keywords in capital letters is written with small ones, and comes back from both. -/
theorem read_and_written_respelled :
    WellFormed Sample.segments ∧ Sample.resource.Proper ∧
      (∃ id, parse (written Sample.segments) = .ok id) ∧
      parse (written Sample.segments) = .ok Sample.resource ∧ Sample.resource.text =
        "/subscriptions/s/resourceGroups/rg/providers/Microsoft.ServiceBus/namespaces/ns1/topics/t 1/subscriptions/é" ∧
      parse Sample.resource.text = .ok Sample.resource ∧
      decode (Utf8.bytes Sample.resource.encode) = .ok Sample.resource := by
  have proper : Sample.resource.Proper := by decide
  have are : AreKeywords "SUBSCRIPTIONS" "resourcegroups" "Providers" "nameSpaces" :=
    ⟨by decide, by decide, by decide, by decide⟩
  have well : WellFormed Sample.segments := wellFormed_spelled.2 ⟨are, proper⟩
  have ok : parse (written Sample.segments) = .ok Sample.resource :=
    parse_ok_iff.2 ⟨proper, _, _, _, _, are, rfl⟩
  obtain ⟨accepted, back, again⟩ := read_and_written
  exact ⟨well, proper, (accepted _).2 ⟨_, well, rfl⟩, ok, by decide +kernel, (again _ _ ok).1, (back _ proper).2⟩

end BusRelay.ResourceId
