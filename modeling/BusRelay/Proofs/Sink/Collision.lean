import BusRelay.Proofs.Conversion.Unpack
import BusRelay.Proofs.Event.Validation
import BusRelay.Proofs.Sink.Headers
/-!
# Extensions in the place of attributes

An extension is never called like an attribute of the event itself, but for capital letters it may be, and
then it takes the place of the attribute in the headers (`overwritten`). Events without capital letters in
the names of their extensions arrive as they are (`core_headers`).
-/

namespace BusRelay.EventHeaders

/-- No extension of an event of a message has the name of an attribute. -/
theorem apart_of_unpacked {source : String} {m : Message} {events : List Event}
    (made : Conversion.unpack.processor source m = .ok events) {e : Event} (mem : e ∈ events) {name : String}
    (core : name ∈ coreNames) : e.extensions.get? name = none := by
  obtain ⟨tree, rest, -, -, each⟩ := Unpack.processor_iff.1 made
  obtain ⟨i, at_, rfl⟩ := List.getElem_of_mem mem
  obtain ⟨structured, read, converted⟩ := each.get (by rw [each.length_eq]; exact at_) at_
  have own : coreNames ⊆ StructuredEvent.coreNames := by decide
  exact StructuredEvent.get?_extensions_toEvent read converted (own core)

/-- **Headers of unpacked events.** No extension of an event that came in a message is called like one of
the event's own attributes. The header of such an attribute has what the last extension brings whose name
is the attribute's but for capital letters, if there is one, and else the attribute. So if no extension has
a capital letter in its name, every attribute arrives in a header for itself, and what is not set is in no
header. -/
theorem core_headers (source : String) (m : Message) (events : List Event)
    (made : Conversion.unpack.processor source m = .ok events) (e : Event) (mem : e ∈ events)
    (headers : Dict String) (ok : EventHeaders.headers e.prepare.1 = .ok headers) :
    (∀ name ∈ coreNames, e.extensions.get? name = none) ∧
    (∀ name ∈ coreNames, headers.get? ("ce-" ++ name) =
      ((supplied? ("ce-" ++ name) e.extensions.entries).or (e.prepare.1.attribute? name)).map encodeValue) ∧
    ((∀ name ∈ e.extensions.entries.map Prod.fst, IsPlainName name) →
      (∀ name, headers.get? ("ce-" ++ name) = (e.prepare.1.attribute? name).map encodeValue) ∧
      ∀ a ∈ e.extensions.entries.map Prod.fst, ∀ b ∈ e.extensions.entries.map Prod.fst,
        headerName a = headerName b → a = b) := by
  have apart : ∀ name ∈ coreNames, e.extensions.get? name = none := fun name => apart_of_unpacked made mem
  refine ⟨apart, fun name core => ?_, fun plain => ⟨fun name => ?_, fun a first b second same => ?_⟩⟩
  · rw [get?_core ok core, Event.prepare_extensions]
  · exact get?_attribute ok (by rwa [Event.prepare_extensions]) (by rwa [Event.prepare_extensions]) name
  · rw [headerName_of_plain (plain a first), headerName_of_plain (plain b second)] at same
    exact append_injective same

namespace Sample

/-- A message with an event that has one extension, of this name. -/
def extended (name : String) : Message where
  id := ⟨"m1", by decide⟩
  body := Utf8.bytes ("\x7b\"specversion\":\"1.0\",\"id\":\"e1\",\"type\":\"created\",\"" ++ name ++ "\":\"e2\"\x7d")

end Sample

/-- Of an event whose extension is written in small letters every attribute arrives. -/
theorem core_headers_small : ∃ events e headers,
    Conversion.unpack.processor "queue" (Sample.extended "trace") = .ok events ∧ e ∈ events ∧
      EventHeaders.headers e.prepare.1 = .ok headers ∧
      (∀ name ∈ e.extensions.entries.map Prod.fst, IsPlainName name) ∧
      headers.get? "ce-id" = some (encodeValue "e1") ∧ headers.get? "ce-trace" = some (encodeValue "e2") ∧
      headers.get? "ce-subject" = none := by
  refine ⟨_, _, _, rfl, List.mem_singleton.2 rfl, rfl, ?_⟩
  obtain ⟨-, -, kept⟩ := core_headers "queue" (Sample.extended "trace") _ rfl _ (List.mem_singleton.2 rfl) _ rfl
  have plain : ∀ name ∈ (Dict.ofList [("trace", "e2")]).entries.map Prod.fst, IsPlainName name := by
    decide
  obtain ⟨arrives, -⟩ := kept plain
  exact ⟨plain, arrives "id", arrives "trace", arrives "subject"⟩

/-- An extension that is called like the id but for capital letters arrives in its place. -/
theorem overwritten : ∃ events e headers,
    Conversion.unpack.processor "queue" (Sample.extended "ID") = .ok events ∧ e ∈ events ∧
      EventHeaders.headers e.prepare.1 = .ok headers ∧ e.prepare.1.attribute? "id" = some "e1" ∧
      headers.get? "ce-id" = some "e2" ∧ encodeValue "e1" ≠ "e2" :=
  ⟨_, _, _, rfl, List.mem_singleton.2 rfl, rfl, rfl, rfl, by decide⟩

end BusRelay.EventHeaders
