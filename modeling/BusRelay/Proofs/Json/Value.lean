import BusRelay.Json.Value
import BusRelay.Proofs.Dict
import BusRelay.Proofs.Json.Number
/-!
# JSON values

What is proved of every value is proved of lists and objects from what they hold (`induction`). A canonical
value is its own canonical form (`canonical_canonical`), and nothing in it is new (`Within.canonical`).
-/

namespace BusRelay.Json

@[induction_eliminator]
theorem induction {P : Json → Prop} (null : P .null) (bool : ∀ value, P (.bool value))
    (number : ∀ value, P (.number value)) (string : ∀ value, P (.string value))
    (array : ∀ items, (∀ item ∈ items, P item) → P (.array items))
    (object : ∀ members, (∀ member ∈ members, P member.2) → P (.object members)) (value : Json) : P value :=
  @Json.rec P (fun items => ∀ item ∈ items, P item) (fun members => ∀ member ∈ members, P member.2)
    (fun member => P member.2) null bool number string array object nofun
    (fun _ _ one others => List.forall_mem_cons.2 ⟨one, others⟩) nofun
    (fun _ _ one others => List.forall_mem_cons.2 ⟨one, others⟩) (fun _ _ one => one) value

/-- No number in the value is a binary one. -/
inductive FloatFree : Json → Prop where
  | null : FloatFree .null
  | bool (value : Bool) : FloatFree (.bool value)
  | integer (value : Int) : FloatFree (.number (.integer value))
  | string (value : String) : FloatFree (.string value)
  | array {items : List Json} (each : ∀ item ∈ items, FloatFree item) : FloatFree (.array items)
  | object {members : List (String × Json)} (each : ∀ member ∈ members, FloatFree member.2) :
      FloatFree (.object members)

/-- Lists and objects are nested at most this deep, and integers fit 64 bits. -/
inductive Within : (depth : Nat) → Json → Prop where
  | null (depth : Nat) : Within depth .null
  | bool (depth : Nat) (value : Bool) : Within depth (.bool value)
  | number (depth : Nat) {value : Number} (fits : value.Fits) : Within depth (.number value)
  | string (depth : Nat) (value : String) : Within depth (.string value)
  | array {depth : Nat} {items : List Json} (each : ∀ item ∈ items, Within depth item) :
      Within (depth + 1) (.array items)
  | object {depth : Nat} {members : List (String × Json)} (each : ∀ member ∈ members, Within depth member.2) :
      Within (depth + 1) (.object members)

theorem canonicalItems_eq (items : List Json) : canonicalItems items = items.map canonical := by
  induction items with
  | nil => rfl
  | cons item rest ih => rw [canonicalItems, ih, List.map_cons]

theorem canonicalMembers_eq (members : List (String × Json)) :
    canonicalMembers members = members.map fun member => (member.1, canonical member.2) := by
  induction members with
  | nil => rfl
  | cons member rest ih => rw [canonicalMembers, ih, List.map_cons]

/-- A canonical value stays as it is. -/
theorem canonical_canonical (value : Json) : value.canonical.canonical = value.canonical := by
  induction value with
  | null | bool | number | string => rfl
  | array items ih =>
    rw [canonical, canonical, canonicalItems_eq, canonicalItems_eq, List.map_map]
    exact congrArg _ (List.map_congr_left ih)
  | object members ih =>
    rw [canonical, canonical]
    have same : canonicalMembers (Entries.sorted (canonicalMembers members)) =
        Entries.sorted (canonicalMembers members) := by
      rw [canonicalMembers_eq (Entries.sorted _)]
      refine (List.map_congr_left fun entry mem => ?_).trans (List.map_id _)
      have old := Entries.mem_of_mem_sorted mem
      rw [canonicalMembers_eq] at old
      obtain ⟨member, held, rfl⟩ := List.mem_map.1 old
      exact congrArg (member.1, ·) (ih member held)
    rw [same, Entries.sorted_of_ascending (Entries.ascending_sorted _)]

theorem Within.canonical {depth : Nat} {value : Json} (within : Within depth value) :
    Within depth value.canonical := by
  induction within with
  | null => exact .null _
  | bool => exact .bool _ _
  | number depth fits => exact .number _ fits
  | string => exact .string _ _
  | array each ih =>
    rw [Json.canonical, canonicalItems_eq]
    exact .array (List.forall_mem_map.2 ih)
  | object each ih =>
    rw [Json.canonical, canonicalMembers_eq]
    refine .object fun entry mem => ?_
    obtain ⟨member, held, rfl⟩ := List.mem_map.1 (Entries.mem_of_mem_sorted mem)
    exact ih member held

/-- Deeper than needed is deep enough. -/
theorem Within.mono {depth more : Nat} {value : Json} (within : Within depth value) (le : depth ≤ more) :
    Within more value := by
  induction within generalizing more with
  | null => exact .null more
  | bool => exact .bool more _
  | number depth fits => exact .number more fits
  | string => exact .string more _
  | array each ih =>
    obtain ⟨less, rfl⟩ := Nat.exists_eq_add_of_le' (Nat.le_trans (Nat.le_add_left 1 _) le)
    exact .array fun item mem => ih item mem (Nat.le_of_succ_le_succ le)
  | object each ih =>
    obtain ⟨less, rfl⟩ := Nat.exists_eq_add_of_le' (Nat.le_trans (Nat.le_add_left 1 _) le)
    exact .object fun member mem => ih member mem (Nat.le_of_succ_le_succ le)

/-! ## Members and items -/

/-- The value, unless it is null. -/
def nonNull? : Json → Option Json
  | null => none
  | value => some value

/-- What an object has under a name, unless it is null. -/
def given? (name : String) : Json → Option Json
  | object members => (Entries.get? name members).bind nonNull?
  | _ => none

/-- The items of a list, or the value alone. -/
def elements : Json → List Json
  | array items => items
  | value => [value]

theorem eq_of_nonNull? {value other : Json} (found : value.nonNull? = some other) : value = other := by
  cases value with
  | null => cases found
  | _ => exact Option.some.inj found

/-- A text is no null, so it is given where it stands. -/
theorem given?_eq_string {name text : String} {members : List (String × Json)} :
    (object members).given? name = some (string text) ↔ Entries.get? name members = some (string text) := by
  rw [given?, Option.bind_eq_some_iff]
  constructor
  · rintro ⟨value, found, text⟩
    rwa [eq_of_nonNull? text] at found
  · intro found
    exact ⟨string text, found, rfl⟩

theorem given?_canonical (name : String) (members : List (String × Json)) :
    (object members).canonical.given? name = (Entries.last? name (canonicalMembers members)).bind nonNull? := by
  rw [canonical, given?, Entries.get?_sorted]

/-- A value that a document may be: canonical, nested no deeper than the reader goes, with integers of 64
bits. -/
structure IsDocument (value : Json) : Prop where
  within : Within maxDepth value
  canonical : value.canonical = value

namespace IsDocument

variable {value part : Json}

/-- What is listed in a document may be one of its own. -/
theorem element (document : IsDocument value) (mem : part ∈ value.elements) : IsDocument part := by
  cases value with
  | array items =>
    obtain ⟨within, same⟩ := document
    rw [Json.canonical, canonicalItems_eq] at same
    injection same with same
    rw [elements, ← same] at mem
    obtain ⟨item, held, rfl⟩ := List.mem_map.1 mem
    refine ⟨?_, canonical_canonical item⟩
    cases within with
    | array each => exact ((each item held).mono (Nat.le_succ _)).canonical
  | _ =>
    obtain rfl := List.mem_singleton.1 mem
    exact document

/-- What stands under a name in a document may be one of its own. -/
theorem given {name : String} (document : IsDocument value) (found : value.given? name = some part) :
    IsDocument part := by
  cases value with
  | object members =>
    obtain ⟨within, same⟩ := document
    obtain ⟨old, get, some⟩ := Option.bind_eq_some_iff.1 found
    obtain rfl := eq_of_nonNull? some
    have mem := Entries.mem_of_get? get
    rw [Json.canonical, canonicalMembers_eq] at same
    injection same with same
    constructor
    · cases within with
      | object each => exact (each _ mem).mono (Nat.le_succ _)
    · rw [← same] at mem
      obtain ⟨member, -, made⟩ := List.mem_map.1 (Entries.mem_of_mem_sorted mem)
      cases made
      exact canonical_canonical member.2
  | _ => cases found

end IsDocument

/-- A document is the canonical form of its value. -/
theorem decode?_of_readTree {text : Utf8.Bytes} {tree : Tree} {rest : Cursor} {raw : Json}
    (read : readTree text = (tree, .ok rest)) (whole : tree.toJson = .ok raw)
    (ends : endOfDocument rest = .ok ()) : decode? text = some raw.canonical := by
  rw [decode?, decode, decodeWith, read]
  dsimp only
  rw [whole]
  change (endOfDocument rest >>= fun _ => pure raw.canonical).toOption = _
  rw [ends]
  rfl

end BusRelay.Json
