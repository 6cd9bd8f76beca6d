import BusRelay.Proofs.Json.Step
/-!
# What is read

A text that does not break off is read as a value, whose lists and objects are nested no deeper than the
reader goes and whose integers fit 64 bits (`readTree_ok`).
-/

namespace BusRelay.Json

/-- What is read with this much fuel, if the text does not break off. -/
structure Sound (fuel : Nat) : Prop where
  value : ∀ {depth c tree after}, readValue depth fuel c = (tree, .ok after) →
    ∃ raw, tree.toJson = .ok raw ∧ Within depth raw
  items : ∀ {depth first c trees after}, readItems depth first fuel c = (trees, .ok after) →
    ∃ raws, Tree.itemsToJson trees = .ok raws ∧ ∀ raw ∈ raws, Within depth raw
  members : ∀ {depth first c trees after}, readMembers depth first fuel c = (trees, .ok after) →
    ∃ raws, Tree.membersToJson trees = .ok raws ∧ ∀ raw ∈ raws, Within depth raw.2

namespace Sound

variable {fuel depth : Nat} {first : Bool} {c after : Cursor} {tree : Tree}

theorem readValue (sound : Sound fuel) (read : Json.readValue depth (fuel + 1) c = (tree, .ok after)) :
    ∃ raw, tree.toJson = .ok raw ∧ Within depth raw := by
  have begins := readValue_ok read
  generalize c.blanks.rest = rest at begins
  cases begins with
  | scalar _ _ worth => exact worth
  | array inside =>
    obtain ⟨raws, made, within⟩ := sound.items inside
    refine ⟨.array raws, ?_, .array within⟩
    rw [Tree.toJson, made]
    rfl
  | object inside =>
    obtain ⟨raws, made, within⟩ := sound.members inside
    refine ⟨.object raws, ?_, .object within⟩
    rw [Tree.toJson, made]
    rfl

theorem readItems (sound : Sound fuel) {trees : List Tree}
    (read : Json.readItems depth first (fuel + 1) c = (trees, .ok after)) :
    ∃ raws, Tree.itemsToJson trees = .ok raws ∧ ∀ raw ∈ raws, Within depth raw := by
  rw [Json.readItems] at read
  split at read
  · cases read
  · cases read
    exact ⟨[], rfl, List.forall_mem_nil _⟩
  · split at read
    · cases read
    · rename_i item next one
      split at read
      rename_i items left others
      cases read
      obtain ⟨raw, made, within⟩ := sound.value one
      obtain ⟨raws, more, all⟩ := sound.items others
      refine ⟨raw :: raws, ?_, List.forall_mem_cons.2 ⟨within, all⟩⟩
      rw [Tree.itemsToJson, made, more]
      rfl

theorem readMembers (sound : Sound fuel) {trees : List (String × Nat × Tree)}
    (read : Json.readMembers depth first (fuel + 1) c = (trees, .ok after)) :
    ∃ raws, Tree.membersToJson trees = .ok raws ∧ ∀ raw ∈ raws, Within depth raw.2 := by
  rw [Json.readMembers] at read
  split at read
  · cases read
  · cases read
    exact ⟨[], rfl, List.forall_mem_nil _⟩
  · split at read
    · cases read
    · rename_i name named _
      split at read
      · cases read
      · split at read
        · cases read
        · rename_i value next one
          split at read
          rename_i members left others
          cases read
          obtain ⟨raw, made, within⟩ := sound.value one
          obtain ⟨raws, more, all⟩ := sound.members others
          refine ⟨(name, raw) :: raws, ?_, List.forall_mem_cons.2 ⟨within, all⟩⟩
          rw [Tree.membersToJson, made, more]
          rfl

end Sound

theorem sound (fuel : Nat) : Sound fuel := by
  induction fuel with
  | zero => exact ⟨nofun, nofun, nofun⟩
  | succ fuel ih => exact ⟨ih.readValue, ih.readItems, ih.readMembers⟩

/-- A document that does not break off is a value. -/
theorem readTree_ok {text : Utf8.Bytes} {tree : Tree} {rest : Cursor} (read : readTree text = (tree, .ok rest)) :
    ∃ raw, tree.toJson = .ok raw ∧ Within maxDepth raw :=
  (sound _).value read

/-- A document that is read leaves nothing behind but blanks. -/
theorem decodeWith_ok {α : Type} {read : Tree → Except Fault α} {text : Utf8.Bytes} {value : α}
    (ok : decodeWith read text = .ok value) : ∃ tree rest, readTree text = (tree, .ok rest) ∧
      read tree = .ok value ∧ endOfDocument rest = .ok () := by
  unfold decodeWith at ok
  generalize whole : readTree text = result at ok
  obtain ⟨tree, left⟩ := result
  obtain ⟨value, made, ok⟩ := bind_ok ok
  obtain ⟨rest, stop, ok⟩ := bind_ok ok
  obtain ⟨_, ends, ok⟩ := bind_ok ok
  cases ok
  exact ⟨tree, rest, by rw [stop], made, ends⟩

/-- A document that is a value is read as anything else by way of its tree. -/
theorem exists_tree_of_written {text : Utf8.Bytes} {raw : Json} (written : decodeWith Tree.toJson text = .ok raw) :
    ∃ tree, tree.toJson = .ok raw ∧ ∀ {α : Type} (read : Tree → Except Fault α), decodeWith read text = read tree := by
  obtain ⟨tree, rest, whole, made, ends⟩ := decodeWith_ok written
  refine ⟨tree, made, fun read => ?_⟩
  unfold decodeWith
  rw [whole]
  dsimp only
  cases read tree with
  | error fault => rfl
  | ok value =>
    change (endOfDocument rest >>= fun _ => pure value) = _
    rw [ends]
    rfl

end BusRelay.Json
