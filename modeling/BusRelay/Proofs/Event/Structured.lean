import BusRelay.Event.Structured
import BusRelay.Proofs.Json.Tree
/-!
# Events are read from values

Whether an event is read from a tree, and which, is decided by the value of the tree. Where the value stood
in its text only shows in faults (`StructuredEvent.sees_ofTree`).
-/

namespace BusRelay

open Json (Tree Fault)

/-! ## Readers that see the value only -/

/-- The reader makes the same of trees of one value, faults apart. -/
structure SeesValue {α : Type} (read : Tree → Except Fault α) : Prop where
  same : ∀ {tree tree' : Tree}, Tree.Alike tree tree' → (read tree).toOption = (read tree').toOption

namespace SeesValue

variable {α β : Type} {read : Tree → Except Fault α}

theorem asText : SeesValue Tree.asText := by
  constructor
  intro tree tree' alike
  cases alike <;> rfl

theorem map (sees : SeesValue read) (f : α → β) : SeesValue fun tree => f <$> read tree := by
  constructor
  intro tree tree' alike
  rw [toOption_map, toOption_map, sees.same alike]

theorem nullOr (sees : SeesValue read) : SeesValue (Tree.nullOr read) := by
  constructor
  intro tree tree' alike
  have same := (sees.map some).same alike
  cases alike with
  | null => rfl
  | _ => exact same

theorem readInstant : SeesValue StructuredEvent.readInstant := by
  constructor
  intro tree tree' alike
  cases alike with
  | string text stop stop' =>
    unfold StructuredEvent.readInstant
    dsimp only
    cases Rfc3339.read text <;> rfl
  | _ => rfl

theorem readAny : SeesValue StructuredEvent.readAny := by
  constructor
  intro tree tree' alike
  rw [StructuredEvent.readAny, StructuredEvent.readAny, alike.toJson_eq]

theorem readAttribute (name : String) : SeesValue (StructuredEvent.readAttribute name) := by
  constructor
  intro tree tree' alike
  unfold StructuredEvent.readAttribute
  split
  · exact (asText.map _).same alike
  · exact (asText.map _).same alike
  · exact (asText.nullOr.map _).same alike
  · exact (asText.map _).same alike
  · exact (readInstant.nullOr.map _).same alike
  · exact (asText.nullOr.map _).same alike
  · exact (asText.nullOr.map _).same alike
  · exact (asText.nullOr.map _).same alike
  · exact (readAny.nullOr.map _).same alike
  · exact (asText.nullOr.map _).same alike
  · exact (readAny.map _).same alike

end SeesValue

/-! ## Events -/

namespace StructuredEvent

theorem readAttributes_alike {members members' : List (String × Nat × Tree)} {raws : List (String × Json)}
    (made : Tree.membersToJson members = .ok raws) (made' : Tree.membersToJson members' = .ok raws)
    (seen : List String) : (readAttributes seen members).toOption = (readAttributes seen members').toOption := by
  induction members generalizing members' raws seen with
  | nil =>
    cases made
    cases members' with
    | nil => rfl
    | cons member' rest' =>
      obtain ⟨_, _, -, -, same⟩ := Tree.membersToJson_cons made'
      cases same
  | cons member rest ih =>
    obtain ⟨name, named, value⟩ := member
    obtain ⟨raw, more, one, others, rfl⟩ := Tree.membersToJson_cons made
    cases members' with
    | nil => cases made'
    | cons member' rest' =>
      obtain ⟨name', named', value'⟩ := member'
      obtain ⟨raw', more', one', others', same⟩ := Tree.membersToJson_cons made'
      cases same
      rw [readAttributes, readAttributes]
      by_cases repeated : name ∈ coreNames ∧ name ∈ seen
      · rw [if_pos repeated, if_pos repeated]
        rfl
      · rw [if_neg repeated, if_neg repeated]
        have first := (SeesValue.readAttribute name).same (Tree.alike_of_toJson one one')
        have later := ih others others' (name :: seen)
        simp only [toOption_bind, first, later]

theorem toOption_required {α : Type} (name : String) (stop : Nat) (value? : Option α) :
    (required name stop value?).toOption = value? := by
  cases value? <;> rfl

theorem ofAttributes_stop (attributes : List Attribute) (stop stop' : Nat) :
    (ofAttributes attributes stop).toOption = (ofAttributes attributes stop').toOption := by
  simp only [ofAttributes, toOption_bind, toOption_required]

/-- Whether a tree is an event, and which, is seen from its value. -/
theorem sees_ofTree : SeesValue ofTree := by
  constructor
  intro tree tree' alike
  cases alike with
  | object start start' stop stop' made made' =>
    have attributes := readAttributes_alike made made' []
    unfold ofTree
    rw [toOption_bind, toOption_bind, attributes]
    congr 1
    funext attributes
    exact ofAttributes_stop attributes stop stop'
  | _ => rfl

end StructuredEvent

end BusRelay
