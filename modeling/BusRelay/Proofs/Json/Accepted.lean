import BusRelay.Proofs.Json.Step
/-!
# Nothing else is read

What is read without breaking off is a value of the grammar with blanks before it (`accepts`), by induction on
the fuel. An object is written with braces (`object_accepted`), and a list with brackets around its items
(`list_accepted`).
-/

namespace BusRelay.Json

open Utf8 (Bytes)

variable {c after : Cursor}

/-! ## Whole values -/

/-- The text writes the value, and an object starts with a brace. -/
structure Writes (depth : Nat) (text : Bytes) (tree : Tree) : Prop where
  value : IsValue depth text
  brace : ∀ start members stop, tree = .object start members stop → text.head? = some (octet '{')

/-- What is read with this much fuel is written by the grammar. -/
structure Accepts (fuel : Nat) : Prop where
  value : ∀ {depth c tree after}, readValue depth fuel c = (tree, .ok after) →
    ∃ before text, IsBlanks before ∧ c.rest = before ++ (text ++ after.rest) ∧ Writes depth text tree
  items : ∀ {depth first c trees after}, readItems depth first fuel c = (trees, .ok after) →
    ∃ (blanks : Bytes) (items : List Padded), IsBlanks blanks ∧
      c.rest = blanks ++ (following first (items.map Padded.text) ++ octet ']' :: after.rest) ∧
      List.Forall₂ (fun item tree => Writes depth item.value tree) items trees
  members : ∀ {depth first c trees after}, readMembers depth first fuel c = (trees, .ok after) →
    ∃ (blanks : Bytes) (members : List Member), IsBlanks blanks ∧
      c.rest = blanks ++ (following first (members.map Member.text) ++ octet '}' :: after.rest) ∧
      ∀ m ∈ members, IsValue depth m.value.value

namespace Accepts

variable {fuel depth : Nat} {first : Bool} {tree : Tree}

/-- The items of a list stand between its brackets. -/
theorem list (accepts : Accepts fuel) {text : Bytes} {offset : Nat} {trees : List Tree}
    (inside : Json.readItems depth true fuel ⟨text, offset⟩ = (trees, .ok after)) :
    ∃ (blanks : Bytes) (items : List Padded), IsBlanks blanks ∧
      octet '[' :: text = bracketed blanks (items.map Padded.text) ++ after.rest ∧
      List.Forall₂ (fun item tree => Writes depth item.value tree) items trees := by
  obtain ⟨blanks, items, blank, left, each⟩ := accepts.items inside
  refine ⟨blanks, items, blank, ?_, each⟩
  rw [show text = _ from left, following, if_pos rfl, bracketed]
  simp

theorem readValue (accepts : Accepts fuel) (read : Json.readValue depth (fuel + 1) c = (tree, .ok after)) :
    ∃ before text, IsBlanks before ∧ c.rest = before ++ (text ++ after.rest) ∧ Writes depth text tree := by
  obtain ⟨before, blank, left⟩ := exists_blanks c
  have begins := readValue_ok read
  generalize c.blanks.rest = rest at left begins
  cases begins with
  | scalar value same _ isScalar =>
    refine ⟨before, _, blank, by rw [left, same], value, fun start members stop same => ?_⟩
    rw [same] at isScalar
    cases isScalar
  | array inside =>
    obtain ⟨blanks, items, inner, same, each⟩ := accepts.list inside
    refine ⟨before, bracketed blanks (items.map Padded.text), blank, by rw [left, same], .array inner ?_, nofun⟩
    intro item mem
    obtain ⟨tree, -, writes⟩ := exists_of_forall₂ each mem
    exact writes.value
  | @object _ text _ _ _ _ inside =>
    obtain ⟨blanks, members, inner, same, each⟩ := accepts.members inside
    refine ⟨before, braced blanks (members.map Member.text), blank, ?_, .object inner each, fun _ _ _ _ => rfl⟩
    rw [left, show text = _ from same, following, if_pos rfl, braced]
    simp

theorem readItems (accepts : Accepts fuel) {trees : List Tree}
    (read : Json.readItems depth first (fuel + 1) c = (trees, .ok after)) :
    ∃ (blanks : Bytes) (items : List Padded), IsBlanks blanks ∧
      c.rest = blanks ++ (following first (items.map Padded.text) ++ octet ']' :: after.rest) ∧
      List.Forall₂ (fun item tree => Writes depth item.value tree) items trees := by
  rw [Json.readItems] at read
  split at read
  · cases read
  · rename_i close
    cases read
    obtain ⟨blanks, blank, left⟩ := nextItem_end_ok close
    exact ⟨blanks, [], blank, by rw [left, List.map_nil, following_nil]; rfl, .nil⟩
  · rename_i item
    obtain ⟨blanks, before, blank, blank_before, left⟩ := nextItem_ok item
    split at read
    · cases read
    · rename_i one
      split at read
      rename_i others
      cases read
      obtain ⟨inner, text, blank_inner, here, writes⟩ := accepts.value one
      obtain ⟨behind, items, blank_after, more, each⟩ := accepts.items others
      refine ⟨blanks, ⟨before ++ inner, text, behind, blank_before.append blank_inner, blank_after⟩ :: items, blank,
        ?_, .cons writes each⟩
      rw [left, here, more, List.map_cons, following_cons, Padded.text]
      simp only [List.append_assoc]

theorem readMembers (accepts : Accepts fuel) {trees : List (String × Nat × Tree)}
    (read : Json.readMembers depth first (fuel + 1) c = (trees, .ok after)) :
    ∃ (blanks : Bytes) (members : List Member), IsBlanks blanks ∧
      c.rest = blanks ++ (following first (members.map Member.text) ++ octet '}' :: after.rest) ∧
      ∀ m ∈ members, IsValue depth m.value.value := by
  rw [Json.readMembers] at read
  split at read
  · cases read
  · rename_i close
    cases read
    obtain ⟨blanks, blank, left⟩ := nextName_end_ok close
    exact ⟨blanks, [], blank, by rw [left, List.map_nil, following_nil]; rfl, List.forall_mem_nil _⟩
  · rename_i next
    obtain ⟨blanks, before, blank, blank_before, left⟩ := nextName_ok next
    split at read
    · cases read
    · rename_i name
      obtain ⟨content, inside, named⟩ := content_of_readText name
      split at read
      · cases read
      · rename_i colon
        obtain ⟨between, blank_between, value⟩ := readColon_ok colon
        split at read
        · cases read
        · rename_i one
          split at read
          rename_i others
          cases read
          obtain ⟨inner, text, blank_inner, here, writes⟩ := accepts.value one
          obtain ⟨behind, members, blank_after, more, each⟩ := accepts.members others
          refine ⟨blanks, ⟨before, content, between, ⟨inner, text, behind, blank_inner, blank_after⟩, blank_before,
            inside, blank_between⟩ :: members, blank, ?_, List.forall_mem_cons.2 ⟨writes.value, each⟩⟩
          rw [left, named, value, here, more, List.map_cons, following_cons, Member.text, Padded.text]
          simp only [List.append_assoc, List.cons_append]

end Accepts

theorem accepts (fuel : Nat) : Accepts fuel := by
  -- Each of the three readers calls the others with less fuel.
  induction fuel with
  | zero => exact ⟨nofun, nofun, nofun⟩
  | succ fuel ih => exact ⟨ih.readValue, ih.readItems, ih.readMembers⟩

/-! ## Whole documents -/

theorem endOfDocument_ok (ends : endOfDocument c = .ok ()) : IsBlanks c.rest := by
  obtain ⟨blanks, blank, left⟩ := exists_blanks c
  rw [endOfDocument] at ends
  split at ends
  · rename_i none_
    rw [List.isEmpty_iff] at none_
    rw [left, none_, List.append_nil]
    exact blank
  · cases ends

/-- What is read as an object, with nothing but blanks behind it, is the text of one. -/
theorem object_accepted {depth : Nat} (fuel : Nat) {text : Bytes} {start : Nat}
    {members : List (String × Nat × Tree)} {stop : Except Fault Nat}
    (read : readValue depth fuel (.ofBytes text) = (.object start members stop, .ok after))
    (blank : IsBlanks after.rest) : IsObjectText depth text := by
  obtain ⟨before, value, blank_before, left, writes⟩ := (accepts fuel).value read
  exact ⟨⟨before, value, after.rest, blank_before, blank⟩, left.symm, writes.value,
    writes.brace start members stop rfl⟩

/-- A document that is a list has items with blanks around them. -/
theorem list_accepted {text : Bytes} {start : Nat} {trees : List Tree} {stop : Except Fault Nat}
    (read : readTree text = (.array start trees stop, .ok after)) (ends : endOfDocument after = .ok ()) :
    ∃ items : List Padded, IsListOf (items.map Padded.text) text ∧
      List.Forall₂ (fun item tree => Writes (maxDepth - 1) item.value tree) items trees := by
  obtain ⟨before, blank, left⟩ := exists_blanks (.ofBytes text)
  have begins := readValue_ok read
  generalize maxDepth = depth at begins ⊢
  generalize (Cursor.ofBytes text).blanks.rest = rest at left begins
  cases begins with
  | scalar _ _ _ isScalar => cases isScalar
  | array inside =>
    obtain ⟨blanks, items, inner, same, each⟩ := (accepts _).list inside
    refine ⟨items, ⟨⟨before, bracketed blanks (items.map Padded.text), after.rest, blank,
      endOfDocument_ok ends⟩, ?_, blanks, inner, rfl⟩, each⟩
    rw [show text = _ from left, same]
    rfl

end BusRelay.Json
