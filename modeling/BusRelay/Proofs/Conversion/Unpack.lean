import BusRelay.Conversion.Processor
import BusRelay.Proofs.Event.Converted
/-!
# The events of a body, one by one

Every event of a message comes from an object of its own in the body (`Unpack.processor_iff`).
-/

namespace BusRelay

open Json (Tree)

namespace Unpack

/-- The values of which events are made. -/
def items : Tree → List Tree
  | .array _ items _ => items
  | tree => [tree]

/-- An event is made of every one of them. -/
theorem readEvents?_iff {tree : Tree} {structured : List StructuredEvent} : readEvents? tree = some structured ↔
    List.Forall₂ (fun item e => StructuredEvent.ofTree item = .ok e) (items tree) structured := by
  cases tree with
  | array start trees stop => simp only [readEvents?, items, mapM_eq_some, toOption_eq_some]
  | _ =>
    simp only [readEvents?, items, Option.map_eq_some_iff, toOption_eq_some]
    constructor
    · rintro ⟨e, made, rfl⟩
      exact .cons made .nil
    · rintro (_ | ⟨made, ⟨⟩⟩)
      exact ⟨_, made, rfl⟩

theorem toEvents_iff {source : String} {time : Instant} {index : Nat} {structured : List StructuredEvent}
    {events : List Event} : toEvents source time index structured = .ok events ↔
      List.Forall₂ (fun e event => e.toEvent source time = .ok event) structured events := by
  induction structured generalizing index events with
  | nil =>
    rw [toEvents, List.forall₂_nil_left_iff]
    exact ⟨by rintro ⟨⟩; rfl, by rintro rfl; rfl⟩
  | cons e rest ih =>
    rw [toEvents]
    constructor
    · intro made
      split at made
      · cases made
      · rename_i event one
        obtain ⟨more, others, rfl⟩ := map_ok made
        exact .cons one (ih.1 others)
    · rintro (_ | ⟨one, others⟩)
      rw [one]
      dsimp only
      rw [ih.2 others]
      rfl

/-- A body that is accepted is a document. -/
theorem readBody_iff {body : Utf8.Bytes} {structured : List StructuredEvent} : readBody body = .ok structured ↔
    ∃ tree rest, Json.readTree body = (tree, .ok rest) ∧ Json.endOfDocument rest = .ok () ∧
      readEvents? tree = some structured := by
  constructor
  · intro read
    simp only [readBody] at read
    split at read
    · cases read
    · rename_i rest whole
      split at read
      · cases read
      · rename_i events found
        split at read
        · cases read
        · rename_i ends
          cases read
          exact ⟨_, rest, Prod.ext rfl whole, ends, found⟩
  · rintro ⟨tree, rest, read, ends, found⟩
    simp only [readBody, read, found, ends]

/-- The events of a message are made of the values in its body, one by one. -/
theorem processor_iff {source : String} {m : Message} {events : List Event} :
    Conversion.unpack.processor source m = .ok events ↔
      ∃ tree rest, Json.readTree m.body = (tree, .ok rest) ∧ Json.endOfDocument rest = .ok () ∧
        List.Forall₂ (fun item event => ∃ e, StructuredEvent.ofTree item = .ok e ∧
          e.toEvent source m.eventTime = .ok event) (items tree) events := by
  have processed : Conversion.unpack.processor source m = .ok events ↔ Unpack.events source m = .ok events := by
    simp only [Conversion.processor]
    cases Unpack.events source m with
    | ok others => exact ⟨by rintro ⟨⟩; rfl, by rintro ⟨⟩; rfl⟩
    | error fault => exact ⟨nofun, nofun⟩
  rw [processed]
  constructor
  · intro made
    obtain ⟨structured, body, made⟩ := bind_ok made
    obtain ⟨tree, rest, read, ends, found⟩ := readBody_iff.1 body
    exact ⟨tree, rest, read, ends, forall₂_comp.1 ⟨structured, readEvents?_iff.1 found, toEvents_iff.1 made⟩⟩
  · rintro ⟨tree, rest, read, ends, each⟩
    obtain ⟨structured, first, second⟩ := forall₂_comp.2 each
    rw [Unpack.events, readBody_iff.2 ⟨tree, rest, read, ends, readEvents?_iff.2 first⟩]
    exact toEvents_iff.2 second

/-- A message is refused under its own name. -/
theorem processor_cases (source : String) (m : Message) :
    (∃ events, Conversion.unpack.processor source m = .ok events) ∨
      ∃ reason, Conversion.unpack.processor source m = .error ⟨m.id, reason⟩ := by
  simp only [Conversion.processor]
  cases Unpack.events source m with
  | ok events => exact .inl ⟨events, rfl⟩
  | error fault => exact .inr ⟨fault.message m.body, rfl⟩

end Unpack

end BusRelay
