import BusRelay.Proofs.Conversion.Document
import BusRelay.Proofs.Event.Structured
import BusRelay.Proofs.Json.Accepted
/-!
# Batches

A message that holds a list of objects is taken as messages that hold one of the objects each, or not at all
(`Unpack.batch_elementwise`). What a body brings is decided by its value (`Unpack.accepted_iff`), the value of
a list by those of its items, and these do not depend on where the items stand.
-/

namespace BusRelay.Unpack

open Json (Tree)
open Utf8 (Bytes)

variable {source : String} {time : Instant} {m : Message} {events : List Event}

/-! ## What a body brings -/

/-- The value is an event, and the message brings it as this one. -/
def Brings (source : String) (time : Instant) (value : Json) (event : Event) : Prop :=
  ∃ tree e, tree.toJson = .ok value ∧ StructuredEvent.ofTree tree = .ok e ∧ e.toEvent source time = .ok event

/-- Any tree of the value shows what it brings. -/
theorem brings_iff {tree : Tree} {value : Json} {event : Event} (made : tree.toJson = .ok value) :
    Brings source time value event ↔
      ∃ e, StructuredEvent.ofTree tree = .ok e ∧ e.toEvent source time = .ok event := by
  constructor
  · rintro ⟨tree', e, made', read, converted⟩
    have same := StructuredEvent.sees_ofTree.same (Tree.alike_of_toJson made made')
    rw [toOption_eq_some.2 read, toOption_eq_some] at same
    exact ⟨e, same, converted⟩
  · rintro ⟨e, read, converted⟩
    exact ⟨tree, e, made, read, converted⟩

/-- A body that is read as a value brings what the elements of the value bring. -/
theorem accepted_iff {p : Json.Padded} {value? : Option Json} (body : p.text = m.body)
    (reads : Json.ReadsAs Json.maxDepth p.value value?) :
    Conversion.unpack.processor source m = .ok events ↔
      ∃ value, value? = some value ∧ List.Forall₂ (Brings source m.eventTime) value.elements events := by
  have found := reads.padded (2 * m.body.length + 2) 0 (Nat.le_refl _)
    (by rw [← body, Json.Padded.text, List.length_append, List.length_append]; omega)
    (Json.endsNumber_blanks p.blank_after .nil)
  have text : p.before ++ (p.value ++ (p.after ++ [])) = m.body := by
    rw [← body, Json.Padded.text, List.append_nil]
  rw [text, List.append_nil] at found
  change Json.Finds Tree.toJson p.after (Json.readTree m.body) value? at found
  rw [processor_iff]
  generalize Json.readTree m.body = read at found ⊢
  cases found with
  | broken tree fault =>
    constructor
    · rintro ⟨tree', rest, ⟨⟩, -⟩
    · rintro ⟨value, ⟨⟩, -⟩
  | @read tree value stop made =>
    have pairs : List.Forall₂ (Brings source m.eventTime) value.elements events ↔
        List.Forall₂ (fun item event => ∃ e, StructuredEvent.ofTree item = .ok e ∧
          e.toEvent source m.eventTime = .ok event) (items tree) events := by
      refine (forall₂_congr (items_of_toJson made) fun item element event one => ?_).symm
      exact (brings_iff one).symm
    constructor
    · rintro ⟨_, rest, ⟨⟩, -, each⟩
      exact ⟨value, rfl, pairs.2 each⟩
    · rintro ⟨_, ⟨⟩, each⟩
      exact ⟨tree, _, rfl, Json.endOfDocument_blanks p.blank_after stop, pairs.1 each⟩

/-! ## A message for each object -/

/-- The object of a single message, and what is read of it wherever it stands. -/
structure Holds (m : Message) (p : Json.Padded) (value? : Option Json) : Prop where
  body : p.text = m.body
  reads : Json.ReadsAs (Json.maxDepth - 1) p.value value?
  brace : p.value.head? = some (Json.octet '{')

theorem exists_holds {m : Message} (object : Json.IsObjectText (Json.maxDepth - 1) m.body) :
    ∃ held : Json.Padded × Option Json, Holds m held.1 held.2 := by
  obtain ⟨p, body, value, brace⟩ := object
  obtain ⟨value?, reads⟩ := Json.readsAs value
  exact ⟨⟨p, value?⟩, body, reads, brace⟩

/-- An object alone brings one event or none. -/
theorem Holds.accepted_iff {p : Json.Padded} {value? : Option Json} (holds : Holds m p value?) :
    Conversion.unpack.processor source m = .ok events ↔
      ∃ value event, value? = some value ∧ Brings source m.eventTime value event ∧ events = [event] := by
  rw [Unpack.accepted_iff holds.body (holds.reads.mono (Nat.sub_le _ _))]
  constructor
  · rintro ⟨value, rfl, each⟩
    obtain ⟨members, rfl⟩ := holds.reads.object holds.brace
    rcases each with _ | ⟨one, ⟨⟩⟩
    exact ⟨_, _, rfl, one, rfl⟩
  · rintro ⟨value, event, rfl, one, rfl⟩
    obtain ⟨members, rfl⟩ := holds.reads.object holds.brace
    exact ⟨_, rfl, .cons one .nil⟩

theorem one_event (object : Json.IsObjectText (Json.maxDepth - 1) m.body)
    (made : Conversion.unpack.processor source m = .ok events) : ∃ event, events = [event] := by
  obtain ⟨held, holds⟩ := exists_holds object
  obtain ⟨value, event, -, -, rfl⟩ := holds.accepted_iff.1 made
  exact ⟨event, rfl⟩

/-- A batch brings the events that its objects bring alone, in order. -/
theorem batch_accepted_iff {singles : List Message} (same : ∀ single ∈ singles, single.eventTime = m.eventTime)
    (objects : ∀ single ∈ singles, Json.IsObjectText (Json.maxDepth - 1) single.body)
    (batch : Json.IsListOf (singles.map (·.body)) m.body) :
    Conversion.unpack.processor source m = .ok events ↔
      List.Forall₂ (fun single event => Conversion.unpack.processor source single = .ok [event])
        singles events := by
  -- What an object is read as is chosen once, and holds alone and in the list.
  obtain ⟨held, each⟩ := exists_forall₂ fun single mem => exists_holds (objects single mem)
  have texts : singles.map (·.body) = (held.map Prod.fst).map Json.Padded.text := by
    rw [List.map_map]
    exact map_eq_of_forall₂ each fun _ _ holds => holds.body.symm
  obtain ⟨p, body, blanks, blank, list⟩ := batch
  have reads : Json.ReadsAs Json.maxDepth p.value (((held.map Prod.snd).mapM id).map .array) := by
    rw [list, texts]
    refine Json.readsAs_array blank (List.forall₂_map_left_iff.2 (List.forall₂_map_right_iff.2 ?_))
    refine List.forall₂_same.2 fun pair mem => ?_
    obtain ⟨single, -, holds⟩ := exists_of_forall₂ each.flip mem
    exact holds.reads
  have list : Conversion.unpack.processor source m = .ok events ↔ ∃ values,
      (held.map Prod.snd).mapM id = some values ∧ List.Forall₂ (Brings source m.eventTime) values events := by
    rw [accepted_iff body reads]
    constructor
    · rintro ⟨_, all, each⟩
      obtain ⟨values, found, rfl⟩ := Option.map_eq_some_iff.1 all
      exact ⟨values, found, each⟩
    · rintro ⟨values, found, each⟩
      exact ⟨.array values, by rw [found]; rfl, each⟩
  rw [list, mapM_iff, List.forall₂_map_left_iff]
  refine (forall₂_congr ((List.forall₂_and_left _ _).2 ⟨same, each⟩) fun single pair event both => ?_).symm
  obtain ⟨time, holds⟩ := both
  rw [holds.accepted_iff, time]
  constructor
  · rintro ⟨value, _, found, one, ⟨⟩⟩
    exact ⟨value, found, one⟩
  · rintro ⟨value, found, one⟩
    exact ⟨value, event, found, one, rfl⟩

/-! ## Everything else -/

/-- A body that is accepted is an object or a list of objects. -/
theorem objects_of_accepted (made : Conversion.unpack.processor source m = .ok events) :
    Json.IsObjectText Json.maxDepth m.body ∨
      ∃ texts, (∀ text ∈ texts, Json.IsObjectText (Json.maxDepth - 1) text) ∧ Json.IsListOf texts m.body := by
  obtain ⟨tree, rest, read, ends, each⟩ := processor_iff.1 made
  cases tree with
  | array start trees stop =>
    obtain ⟨padded, list, written⟩ := Json.list_accepted read ends
    refine .inr ⟨padded.map Json.Padded.text, List.forall_mem_map.2 fun p mem => ?_, list⟩
    obtain ⟨tree, held, writes⟩ := exists_of_forall₂ written mem
    obtain ⟨event, -, e, made, -⟩ := exists_of_forall₂ each held
    obtain ⟨start, members, stop, -, rfl, -, -⟩ := StructuredEvent.ofTree_ok made
    exact ⟨p, rfl, writes.value, writes.brace start members (.ok stop) rfl⟩
  | object start members stop => exact .inl (Json.object_accepted _ read (Json.endOfDocument_ok ends))
  | _ =>
    rcases each with _ | ⟨⟨e, made, -⟩, -⟩
    obtain ⟨start, members, stop, attributes, ⟨⟩, -⟩ := StructuredEvent.ofTree_ok made

/-- **Batches are all or nothing.** If the body of a message is the JSON list of some objects, however these are
written and whatever blanks surround them, it is set against messages that were queued at the same time and
hold one of the objects each. If all of these are accepted, the message is accepted, and its events are theirs,
one for each object, in order. If one of them is refused, the whole message is refused, and no event is made of
it. A message whose body is neither an object nor a list of objects is refused too: a list with something else
in it, a scalar, a text that is no JSON or no UTF-8. Whatever is refused is refused under the message's own
name. -/
theorem batch_elementwise (source : String) (m : Message) :
    (∀ singles : List Message, (∀ single ∈ singles, single.enqueuedTime = m.enqueuedTime) →
      (∀ single ∈ singles, Json.IsObjectText (Json.maxDepth - 1) single.body) →
      Json.IsListOf (singles.map (·.body)) m.body →
        (∀ results, List.Forall₂ (fun single events => Conversion.unpack.processor source single = .ok events)
            singles results → Conversion.unpack.processor source m = .ok results.flatten ∧
              results.flatten.length = singles.length) ∧
        ((∃ single ∈ singles, ∃ fault, Conversion.unpack.processor source single = .error fault) →
          ∃ reason, Conversion.unpack.processor source m = .error ⟨m.id, reason⟩)) ∧
    (¬ Json.IsObjectText Json.maxDepth m.body →
      (∀ texts, (∀ text ∈ texts, Json.IsObjectText (Json.maxDepth - 1) text) → ¬ Json.IsListOf texts m.body) →
        ∃ reason, Conversion.unpack.processor source m = .error ⟨m.id, reason⟩) := by
  constructor
  · intro singles queued objects list
    have same : ∀ single ∈ singles, single.eventTime = m.eventTime := by
      intro single mem
      rw [Message.eventTime, Message.eventTime, queued single mem]
    constructor
    · intro results each
      have one : List.Forall₂ (fun single events => ∃ event,
          Conversion.unpack.processor source single = .ok [event] ∧ [event] = events) singles results := by
        refine ((List.forall₂_and_left _ _).2 ⟨objects, each⟩).imp fun single events both => ?_
        obtain ⟨object, made⟩ := both
        obtain ⟨event, rfl⟩ := one_event object made
        exact ⟨event, made, rfl⟩
      obtain ⟨events, alone, listed⟩ := forall₂_comp.2 one
      have flat : results.flatten = events := flatten_of_singletons listed
      rw [flat]
      exact ⟨(batch_accepted_iff same objects list).2 alone, alone.length_eq.symm⟩
    · rintro ⟨single, mem, fault, refused⟩
      refine (processor_cases source m).resolve_left ?_
      rintro ⟨events, made⟩
      obtain ⟨event, -, alone⟩ := exists_of_forall₂ ((batch_accepted_iff same objects list).1 made) mem
      rw [refused] at alone
      cases alone
  · intro noObject noList
    refine (processor_cases source m).resolve_left ?_
    rintro ⟨events, made⟩
    rcases objects_of_accepted made with object | ⟨texts, objects, list⟩
    · exact noObject object
    · exact noList texts objects list

namespace Sample

/-- An event. -/
def first : Bytes := Utf8.bytes "\x7b\"specversion\":\"1.0\",\"id\":\"e1\",\"type\":\"created\"\x7d"

/-- Another event, with blanks around it and an escape in it. -/
def second : Bytes :=
  Utf8.bytes " \x7b\"specversion\" : \"1.0\", \"id\":\"\\u0065\", \"type\":\"created\"\x7d\n"

/-- An object that is no event. -/
def neither : Bytes := Utf8.bytes "\x7b\"id\":\"e3\"\x7d"

/-- A message with this body. -/
def holding (body : Bytes) : Message where
  id := ⟨"held", by decide⟩
  body

def both : Message := holding (Utf8.bytes "[" ++ first ++ Utf8.bytes "," ++ second ++ Utf8.bytes "]")

def mixed : Message := holding (Utf8.bytes "[ " ++ first ++ Utf8.bytes "," ++ neither ++ Utf8.bytes "]\n")

def number : Message := holding (Utf8.bytes "7")

end Sample

set_option maxRecDepth 4000 in
/-- Two events in one message are the events of two messages. With an object that is no event beside them there
is none, and a number is none either. -/
theorem batch_elementwise_mixed :
    (∃ a b, Conversion.unpack.processor "queue" (Sample.holding Sample.first) = .ok [a] ∧
      Conversion.unpack.processor "queue" (Sample.holding Sample.second) = .ok [b] ∧
      Conversion.unpack.processor "queue" Sample.both = .ok [a, b]) ∧
    (∃ reason, Conversion.unpack.processor "queue" Sample.mixed = .error ⟨Sample.mixed.id, reason⟩) ∧
    ∃ reason, Conversion.unpack.processor "queue" Sample.number = .error ⟨Sample.number.id, reason⟩ := by
  have one : Json.IsObjectText (Json.maxDepth - 1) Sample.first :=
    Json.object_accepted 200 rfl (by decide)
  have two : Json.IsObjectText (Json.maxDepth - 1) Sample.second :=
    Json.object_accepted 200 rfl (by decide)
  have three : Json.IsObjectText (Json.maxDepth - 1) Sample.neither :=
    Json.object_accepted 200 rfl (by decide)
  refine ⟨?_, ?_, ?_⟩
  · obtain ⟨a, first⟩ : ∃ a, Conversion.unpack.processor "queue" (Sample.holding Sample.first) = .ok [a] :=
      ⟨_, rfl⟩
    obtain ⟨b, second⟩ : ∃ b, Conversion.unpack.processor "queue" (Sample.holding Sample.second) = .ok [b] :=
      ⟨_, rfl⟩
    obtain ⟨together, -⟩ := (batch_elementwise "queue" Sample.both).1
      [Sample.holding Sample.first, Sample.holding Sample.second]
      (List.forall_mem_cons.2 ⟨rfl, List.forall_mem_singleton.2 rfl⟩)
      (List.forall_mem_cons.2 ⟨one, List.forall_mem_singleton.2 two⟩)
      ⟨⟨[], Sample.both.body, [], .nil, .nil⟩, rfl, [], .nil, rfl⟩
    exact ⟨a, b, first, second, (together [[a], [b]] (.cons first (.cons second .nil))).1⟩
  · obtain ⟨fault, refused⟩ : ∃ fault, Conversion.unpack.processor "queue" (Sample.holding Sample.neither) =
        .error fault := ⟨_, rfl⟩
    obtain ⟨-, fails⟩ := (batch_elementwise "queue" Sample.mixed).1
      [Sample.holding Sample.first, Sample.holding Sample.neither]
      (List.forall_mem_cons.2 ⟨rfl, List.forall_mem_singleton.2 rfl⟩)
      (List.forall_mem_cons.2 ⟨one, List.forall_mem_singleton.2 three⟩)
      ⟨⟨[], Json.bracketed [32] [Sample.first, Sample.neither], [10], .nil, by decide⟩, rfl, [32],
        by decide, rfl⟩
    exact fails ⟨Sample.holding Sample.neither, List.mem_cons_of_mem _ List.mem_cons_self, fault, refused⟩
  · refine (batch_elementwise "queue" Sample.number).2 (fun object => ?_) fun texts _ list => ?_
    · exact absurd object.brace_mem (by decide)
    · exact absurd list.bracket_mem (by decide)

end BusRelay.Unpack
