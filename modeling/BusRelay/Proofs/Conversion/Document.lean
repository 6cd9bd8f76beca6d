import BusRelay.Proofs.Conversion.Unpack
import BusRelay.Proofs.Json.Reader
/-!
# The document of a message

A body that is accepted is a JSON document, and its events are the elements of it, in order
(`Unpack.document_ok`). The payload of an event is what its object has under `data` or `data_base64`
(`StructuredEvent.given_of_ofTree`).
-/

namespace BusRelay

open Json (Tree)

/-! ## The payload of an event -/

namespace StructuredEvent

/-- An event has the payload that its object has under `data` or under `data_base64`. -/
theorem given_of_ofTree {tree : Tree} {e : StructuredEvent} {raw : Json} (made : ofTree tree = .ok e)
    (json : tree.toJson = .ok raw) : raw.canonical.given? "data" = e.data ∧
      raw.canonical.given? "data_base64" = e.encodedData.map Json.string := by
  obtain ⟨start, members, stop, attributes, rfl, read, made⟩ := ofTree_ok made
  cases Tree.worth_of_toJson json with | object _ _ each =>
  have has := (ofAttributes_iff_has read each).1 made
  rw [Json.given?_object_canonical, Json.given?_object_canonical]
  constructor
  · rw [map_eq_of_rel has.data fun _ _ same => same]
    exact Option.map_id'
  · exact map_eq_of_rel has.encodedData fun _ _ text => congrArg Json.canonical text

end StructuredEvent

/-! ## All events -/

namespace Unpack

/-- The values of which events are made are the elements of the value. -/
theorem items_of_toJson {tree : Tree} {raw : Json} (json : tree.toJson = .ok raw) :
    List.Forall₂ (fun item element => item.toJson = .ok element) (items tree) raw.elements := by
  cases Tree.worth_of_toJson json with
  | array _ _ made => exact Tree.itemsToJson_ok made
  | _ => exact .cons json .nil

theorem elements_canonical (raw : Json) : raw.canonical.elements = raw.elements.map Json.canonical := by
  cases raw with
  | array raws => rw [Json.canonical, Json.elements, Json.canonicalItems_eq, Json.elements]
  | _ => rfl

/-- A body that is accepted is a document, and its events are its elements. -/
theorem document_ok {source : String} {m : Message} {events : List Event}
    (made : Conversion.unpack.processor source m = .ok events) :
    ∃ doc, Json.decode? m.body = some doc ∧ doc.IsDocument ∧
      List.Forall₂ (fun element event => ∃ e : StructuredEvent, e.payload = .ok event.payload ∧
        element.given? "data" = e.data ∧ element.given? "data_base64" = e.encodedData.map Json.string)
        doc.elements events := by
  obtain ⟨tree, rest, read, ends, each⟩ := processor_iff.1 made
  obtain ⟨raw, json, within⟩ := Json.readTree_ok read
  refine ⟨raw.canonical, ?_, ⟨within.canonical, Json.canonical_canonical raw⟩, ?_⟩
  · exact Json.decode?_of_readTree read json ends
  · rw [elements_canonical, List.forall₂_map_left_iff]
    refine (forall₂_comp.1 ⟨items tree, (items_of_toJson json).flip, each⟩).imp ?_
    rintro raw event ⟨item, json, e, made, converted⟩
    exact ⟨e, (StructuredEvent.toEvent_ok_iff.1 converted).1, StructuredEvent.given_of_ofTree made json⟩

end Unpack

end BusRelay
