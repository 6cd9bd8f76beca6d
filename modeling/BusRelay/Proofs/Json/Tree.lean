import BusRelay.Json.Tree
import BusRelay.Proofs.Except
import Mathlib.Data.List.Forall2
/-!
# What trees are worth

A tree has a value if the text does not break off inside it (`Tree.worth_of_toJson`). Trees of one value
differ in their offsets only (`Tree.alike_of_toJson`).
-/

namespace BusRelay.Json.Tree

/-- The tree has this value. -/
inductive Worth : Tree → Json → Prop where
  | null (stop : Nat) : Worth (.null stop) .null
  | bool (value : Bool) (stop : Nat) : Worth (.bool value stop) (.bool value)
  | number (value : Number) (stop : Nat) : Worth (.number value stop) (.number value)
  | string (value : String) (stop : Nat) : Worth (.string value stop) (.string value)
  | array {items : List Tree} {raws : List Json} (start stop : Nat) (made : itemsToJson items = .ok raws) :
      Worth (.array start items (.ok stop)) (.array raws)
  | object {members : List (String × Nat × Tree)} {raws : List (String × Json)} (start stop : Nat)
      (made : membersToJson members = .ok raws) : Worth (.object start members (.ok stop)) (.object raws)

theorem worth_of_toJson {tree : Tree} {raw : Json} (made : tree.toJson = .ok raw) : Worth tree raw := by
  cases tree with
  | array start items stop =>
    rw [toJson] at made
    obtain ⟨raws, all, made⟩ := bind_ok made
    obtain ⟨_, whole, made⟩ := bind_ok made
    obtain ⟨at_, rfl, -⟩ := map_ok whole
    cases made
    exact .array start at_ all
  | object start members stop =>
    rw [toJson] at made
    obtain ⟨raws, all, made⟩ := bind_ok made
    obtain ⟨_, whole, made⟩ := bind_ok made
    obtain ⟨at_, rfl, -⟩ := map_ok whole
    cases made
    exact .object start at_ all
  | broken fault => cases made
  | _ =>
    cases made
    constructor

theorem itemsToJson_ok {trees : List Tree} {raws : List Json} (made : itemsToJson trees = .ok raws) :
    List.Forall₂ (fun tree raw => tree.toJson = .ok raw) trees raws := by
  induction trees generalizing raws with
  | nil =>
    cases made
    exact .nil
  | cons tree rest ih =>
    rw [itemsToJson] at made
    obtain ⟨raw, one, made⟩ := bind_ok made
    obtain ⟨raws, others, made⟩ := bind_ok made
    cases made
    exact .cons one (ih others)

theorem membersToJson_cons {name : String} {named : Nat} {value : Tree} {rest : List (String × Nat × Tree)}
    {raws : List (String × Json)} (made : membersToJson ((name, named, value) :: rest) = .ok raws) :
    ∃ raw more, value.toJson = .ok raw ∧ membersToJson rest = .ok more ∧ raws = (name, raw) :: more := by
  rw [membersToJson] at made
  obtain ⟨raw, one, made⟩ := bind_ok made
  obtain ⟨more, others, made⟩ := bind_ok made
  cases made
  exact ⟨raw, more, one, others, rfl⟩

theorem membersToJson_ok {members : List (String × Nat × Tree)} {raws : List (String × Json)}
    (made : membersToJson members = .ok raws) :
    List.Forall₂ (fun member raw => member.1 = raw.1 ∧ member.2.2.toJson = .ok raw.2) members raws := by
  induction members generalizing raws with
  | nil =>
    cases made
    exact .nil
  | cons member rest ih =>
    obtain ⟨name, named, value⟩ := member
    obtain ⟨raw, more, one, others, rfl⟩ := membersToJson_cons made
    exact .cons ⟨rfl, one⟩ (ih others)

/-- The two members of a value have the trees of two members. -/
theorem membersToJson_pair {trees : List (String × Nat × Tree)} {first second : String} {raw raw' : Json}
    (made : membersToJson trees = .ok [(first, raw), (second, raw')]) :
    ∃ start tree start' tree', trees = [(first, start, tree), (second, start', tree')] ∧ tree.toJson = .ok raw ∧
      tree'.toJson = .ok raw' := by
  match trees, membersToJson_ok made with
  | [(_, start, tree), (_, start', tree')], .cons ⟨rfl, one⟩ (.cons ⟨rfl, other⟩ .nil) =>
    exact ⟨start, tree, start', tree', rfl, one, other⟩

/-- Where the members of a value are split, those of its tree are, and one of them can be taken out. -/
theorem membersToJson_middle {trees : List (String × Nat × Tree)} {before after : List (String × Json)} {name : String}
    {raw : Json} (made : membersToJson trees = .ok (before ++ (name, raw) :: after)) :
    ∃ front named value back, trees = front ++ (name, named, value) :: back ∧ value.toJson = .ok raw ∧
      membersToJson (front ++ back) = .ok (before ++ after) := by
  induction before generalizing trees with
  | nil =>
    cases trees with
    | nil => cases made
    | cons tree back =>
      obtain ⟨key, named, value⟩ := tree
      obtain ⟨_, _, one, others, same⟩ := membersToJson_cons made
      cases same
      exact ⟨[], named, value, back, rfl, one, others⟩
  | cons member before ih =>
    cases trees with
    | nil => cases made
    | cons tree rest =>
      obtain ⟨key, at_, first⟩ := tree
      obtain ⟨_, _, one, others, same⟩ := membersToJson_cons made
      cases same
      obtain ⟨front, named, value, back, rfl, middle, outer⟩ := ih others
      refine ⟨(key, at_, first) :: front, named, value, back, rfl, middle, ?_⟩
      rw [List.cons_append, membersToJson, one, outer]
      rfl

/-! ## Trees of one value -/

/-- Both trees are the same value, each where it stands in its own text. -/
inductive Alike : Tree → Tree → Prop where
  | null (stop stop' : Nat) : Alike (.null stop) (.null stop')
  | bool (value : Bool) (stop stop' : Nat) : Alike (.bool value stop) (.bool value stop')
  | number (value : Number) (stop stop' : Nat) : Alike (.number value stop) (.number value stop')
  | string (value : String) (stop stop' : Nat) : Alike (.string value stop) (.string value stop')
  | array {items items' : List Tree} {raws : List Json} (start start' stop stop' : Nat)
      (made : itemsToJson items = .ok raws) (made' : itemsToJson items' = .ok raws) :
      Alike (.array start items (.ok stop)) (.array start' items' (.ok stop'))
  | object {members members' : List (String × Nat × Tree)} {raws : List (String × Json)}
      (start start' stop stop' : Nat) (made : membersToJson members = .ok raws)
      (made' : membersToJson members' = .ok raws) :
      Alike (.object start members (.ok stop)) (.object start' members' (.ok stop'))

theorem alike_of_toJson {tree tree' : Tree} {raw : Json} (made : tree.toJson = .ok raw)
    (made' : tree'.toJson = .ok raw) : Alike tree tree' := by
  have worth' := worth_of_toJson made'
  cases worth_of_toJson made with
  | null stop =>
    cases worth' with
    | null stop' => exact .null stop stop'
  | bool value stop =>
    cases worth' with
    | bool _ stop' => exact .bool value stop stop'
  | number value stop =>
    cases worth' with
    | number _ stop' => exact .number value stop stop'
  | string value stop =>
    cases worth' with
    | string _ stop' => exact .string value stop stop'
  | array start stop all =>
    cases worth' with
    | array start' stop' all' => exact .array start start' stop stop' all all'
  | object start stop all =>
    cases worth' with
    | object start' stop' all' => exact .object start start' stop stop' all all'

theorem Alike.toJson_eq {tree tree' : Tree} (alike : Alike tree tree') : tree.toJson = tree'.toJson := by
  cases alike with
  | array _ _ _ _ made made' =>
    rw [toJson, toJson, made, made']
    rfl
  | object _ _ _ _ made made' =>
    rw [toJson, toJson, made, made']
    rfl
  | _ => rfl

end BusRelay.Json.Tree
