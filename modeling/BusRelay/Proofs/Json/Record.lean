import BusRelay.Json.Record
import BusRelay.Proofs.Json.Skip
/-!
# Records and their members

A record that is read from an object is made of its own members alone: the others only have to be values
(`decode_object`). What holds before any member and is kept by setting each of them holds of what the record
is completed from (`decode_keeps`).
-/

namespace BusRelay.Json

open Utf8 (Bytes)

/-- An integer that is read is within its bounds. -/
theorem readInteger_ok {low high n : Int} {expected : String} {tree : Tree}
    (read : readInteger low high expected tree = .ok n) : low ≤ n ∧ n ≤ high := by
  unfold readInteger at read
  split at read
  · split at read
    · rename_i within
      cases read
      exact within
    · cases read
  · cases read

/-! ## Own members and others -/

/-- The name that a member writes. -/
def Member.Named (m : Member) (name : String) : Prop :=
  ∀ rest offset, Gives rest (readText ⟨m.name ++ octet '"' :: rest, offset⟩) (some name)

/-- What a member adds to a record with these members: its value under one of the names, and nothing under
another, whatever its value is. -/
inductive Adds (names : List String) (depth : Nat) (m : Member) : List (String × Json) → Prop where
  | own {name : String} {raw : Json} (named : m.Named name) (mem : name ∈ names)
      (value : ReadsAs depth m.value.value (some raw)) : Adds names depth m [(name, raw)]
  | other {name : String} {deep : Nat} (named : m.Named name) (mem : name ∉ names)
      (value : IsValue deep m.value.value) : Adds names depth m []

variable {names : List String} {depth : Nat}

/-- Up to its value a member is read by its name. -/
theorem readKnown_name (names : List String) (depth : Nat) {m : Member} {name : String} (named : m.Named name)
    (first : Bool) {blanks : Bytes} (blank : IsBlanks blanks) (fuel : Nat) (behind : Bytes) (offset : Nat) :
    ∃ reported start,
    readKnown names depth first (fuel + 1) ⟨blanks ++ (comma first ++ (m.text ++ behind)), offset⟩ =
      if name ∈ names then
        match readValue depth fuel ⟨m.value.text ++ behind, start⟩ with
        | (value, .error fault) => ([(name, reported, value)], .error fault)
        | (value, .ok c) =>
          ((name, reported, value) :: (readKnown names depth false fuel c).1, (readKnown names depth false fuel c).2)
      else
        match skipValue fuel ⟨m.value.text ++ behind, start⟩ with
        | .error fault => ([], .error fault)
        | .ok c => readKnown names depth false fuel c := by
  have text : m.text ++ behind = m.before ++ octet '"' ::
      (m.name ++ octet '"' :: (m.between ++ octet ':' :: (m.value.text ++ behind))) := by
    rw [Member.text]
    simp only [List.append_assoc, List.cons_append]
  obtain ⟨start, after, next⟩ := nextName_padded first blank m.blank_before
    (m.name ++ octet '"' :: (m.between ++ octet ':' :: (m.value.text ++ behind))) offset
  rw [text, readKnown, next]
  have called := named (m.between ++ octet ':' :: (m.value.text ++ behind)) start
  dsimp only
  generalize readText _ = result at called ⊢
  obtain ⟨_, stop⟩ := called
  dsimp only
  rw [readColon_padded m.blank_between]
  exact ⟨_, _, rfl⟩

/-- Of the members of an object those of the record are read, and the others are passed over. -/
theorem readKnown_members {members : List Member} {parts : List (List (String × Json))}
    (each : List.Forall₂ (Adds names depth) members parts) (first : Bool) {blanks : Bytes}
    (blank : IsBlanks blanks) (rest : Bytes) (fuel offset : Nat)
    (enough : (following first (members.map Member.text)).length < fuel) :
    ∃ trees stop, readKnown names depth first fuel
        ⟨blanks ++ (following first (members.map Member.text) ++ octet '}' :: rest), offset⟩ =
          (trees, .ok ⟨rest, stop⟩) ∧ Tree.membersToJson trees = .ok parts.flatten := by
  induction each generalizing first blanks fuel offset with
  | nil =>
    obtain ⟨fuel, rfl⟩ := exists_less enough
    rw [List.map_nil, following_nil, List.nil_append, readKnown, nextName_close first blank]
    exact ⟨[], _, rfl, rfl⟩
  | @cons m part members parts one others ih =>
    obtain ⟨fuel, rfl⟩ := exists_less enough
    have length : m.value.value.length ≤ m.text.length ∧ 0 < m.text.length := by
      simp only [Member.text, Padded.text, List.length_append, List.length_cons]
      omega
    rw [List.map_cons, following_cons, List.length_append, List.length_append] at enough
    rw [List.map_cons, following_cons, List.append_assoc, List.append_assoc]
    have ends := endsNumber_following m.value.blank_after (members.map Member.text) (.inr rfl) rest
    have more := fun offset => ih false m.value.blank_after fuel offset (by omega)
    generalize following false (members.map Member.text) ++ octet '}' :: rest = behind at ends more ⊢
    cases one with
    | @own name raw named mem value =>
      obtain ⟨reported, start, read⟩ := readKnown_name names depth named first blank fuel behind offset
      rw [read, if_pos mem, Padded.text_append]
      have found := value.padded fuel start (Nat.le_refl depth) (by omega) ends
      generalize readValue depth fuel _ = result at found ⊢
      obtain ⟨tree, stop, made⟩ := found
      obtain ⟨trees, stop, read, all⟩ := more stop
      dsimp only
      rw [read]
      refine ⟨(name, reported, tree) :: trees, stop, rfl, ?_⟩
      rw [Tree.membersToJson, made, all]
      rfl
    | @other name deep named mem value =>
      obtain ⟨reported, start, read⟩ := readKnown_name names depth named first blank fuel behind offset
      obtain ⟨stop, passed⟩ := (skipped value).passes_padded m.value.blank_before
        (show m.value.value.length ≤ fuel by omega) ends start
      rw [List.append_assoc] at passed
      rw [read, if_neg mem, Padded.text_append, passed]
      exact more stop

/-- What a record is read from if the text is an object: the members of the record, and nothing else. -/
theorem readRecord_object {p : Padded} {blanks : Bytes} (blank : IsBlanks blanks) {members : List Member}
    (object : p.value = braced blanks (members.map Member.text)) {parts : List (List (String × Json))}
    (each : List.Forall₂ (Adds names (maxDepth - 1)) members parts) :
    ∃ start trees stop, readRecord names p.text = (.object start trees (.ok stop), .ok ⟨p.after, stop⟩) ∧
      Tree.membersToJson trees = .ok parts.flatten := by
  have text : p.text = p.before ++ octet '{' ::
      (blanks ++ (following true (members.map Member.text) ++ octet '}' :: p.after)) := by
    rw [Padded.text, object, braced, following, if_pos rfl]
    simp only [List.cons_append, List.append_assoc, List.nil_append]
  have enough : (following true (members.map Member.text)).length < 2 * p.text.length + 2 := by
    rw [text]
    simp only [List.length_append, List.length_cons]
    omega
  obtain ⟨trees, stop, read, all⟩ := readKnown_members each true blank p.after _ (0 + p.before.length + 1) enough
  refine ⟨0 + p.before.length, trees, stop, ?_, all⟩
  have start : (Cursor.ofBytes p.text).blanks = ⟨octet '{' ::
      (blanks ++ (following true (members.map Member.text) ++ octet '}' :: p.after)), 0 + p.before.length⟩ := by
    rw [Cursor.ofBytes, text, blanks_append p.blank_before, StartsValue.blanks (by decide)]
  rw [readRecord, start]
  simp only [if_neg (show octet '{' ≠ octet '[' by decide), if_true, read]
  rfl

namespace Record

variable {σ α : Type} (r : Record σ α)

/-- A record that is an object is made of its own members alone, in the order of the text. -/
theorem decode_object {p : Padded} {blanks : Bytes} (blank : IsBlanks blanks) {members : List Member}
    (object : p.value = braced blanks (members.map Member.text)) {parts : List (List (String × Json))}
    (each : List.Forall₂ (Adds r.members (maxDepth - 1)) members parts) :
    ∃ trees stop, Tree.membersToJson trees = .ok parts.flatten ∧
      r.decode p.text = (r.setMembers [] r.empty trees >>= fun s => r.finish s stop) := by
  obtain ⟨start, trees, stop, read, all⟩ := readRecord_object blank object each
  refine ⟨trees, stop, all, ?_⟩
  have done : r.ofTree (.object start trees (.ok stop)) =
      (r.setMembers [] r.empty trees >>= fun s => r.finish s stop) := rfl
  rw [decode, read]
  change (r.ofTree (.object start trees (.ok stop)) >>= fun value =>
    endOfDocument ⟨p.after, stop⟩ >>= fun _ => pure value) = _
  rw [done, endOfDocument_blanks p.blank_after]
  exact bind_pure _

/-- Members of different names are set one after another. -/
theorem setMembers_distinct {seen : List String} {members : List (String × Nat × Tree)}
    (distinct : (members.map Prod.fst).Nodup) (new : ∀ member ∈ members, member.1 ∉ seen) (s : σ) :
    r.setMembers seen s members = members.foldlM (fun s member => r.set s member.1 member.2.2) s := by
  induction members generalizing seen s with
  | nil => rfl
  | cons member rest ih =>
    obtain ⟨name, named, value⟩ := member
    obtain ⟨first, later⟩ := List.nodup_cons.1 distinct
    rw [setMembers, if_neg (new _ List.mem_cons_self), List.foldlM_cons]
    change (r.set s name value >>= fun s => r.setMembers (name :: seen) s rest) = _
    refine congrArg _ (funext fun s => ih later (fun other mem => ?_) s)
    rw [List.mem_cons, not_or]
    refine ⟨?_, new other (List.mem_cons_of_mem _ mem)⟩
    rintro rfl
    exact first (List.mem_map.2 ⟨other, mem, rfl⟩)

/-! ## What a record is completed from -/

variable {r}

theorem finish_ok {s : σ} {stop : Nat} {value : α} (made : r.finish s stop = .ok value) :
    r.complete s = .ok value := by
  rw [finish] at made
  cases done : r.complete s with
  | error problem =>
    rw [done] at made
    cases made
  | ok value =>
    rw [done] at made
    cases made
    rfl

variable {inv : σ → Prop} (kept : ∀ {s s' name tree}, inv s → r.set s name tree = .ok s' → inv s')

include kept

theorem setMembers_keeps {seen : List String} {s s' : σ} {members : List (String × Nat × Tree)} (holds : inv s)
    (set : r.setMembers seen s members = .ok s') : inv s' := by
  induction members generalizing seen s with
  | nil =>
    cases set
    exact holds
  | cons member rest ih =>
    rw [setMembers] at set
    split at set
    · cases set
    · obtain ⟨next, one, set⟩ := bind_ok set
      exact ih (kept holds one) set

theorem setItems_keeps {s s' : σ} {items : List (String × Tree)} (holds : inv s)
    (set : r.setItems s items = .ok s') : inv s' := by
  induction items generalizing s with
  | nil =>
    cases set
    exact holds
  | cons item rest ih =>
    rw [setItems] at set
    obtain ⟨next, one, set⟩ := bind_ok set
    exact ih (kept holds one) set

theorem ofTree_keeps (start : inv r.empty) {tree : Tree} {value : α} (made : r.ofTree tree = .ok value) :
    ∃ s, inv s ∧ r.complete s = .ok value := by
  unfold ofTree at made
  split at made
  · obtain ⟨s, set, made⟩ := bind_ok made
    obtain ⟨stop, -, made⟩ := bind_ok made
    exact ⟨s, setMembers_keeps kept start set, finish_ok made⟩
  · obtain ⟨s, set, made⟩ := bind_ok made
    obtain ⟨stop, -, made⟩ := bind_ok made
    split at made
    · cases made
    · exact ⟨s, setItems_keeps kept start set, finish_ok made⟩
  · cases made

/-- What holds of every draft holds of the one that a decoded record was completed from. -/
theorem decode_keeps (start : inv r.empty) {text : Bytes} {value : α} (decoded : r.decode text = .ok value) :
    ∃ s, inv s ∧ r.complete s = .ok value := by
  rw [decode] at decoded
  obtain ⟨made, same, decoded⟩ := bind_ok decoded
  obtain ⟨_, -, decoded⟩ := bind_ok decoded
  obtain ⟨_, -, decoded⟩ := bind_ok decoded
  cases decoded
  exact ofTree_keeps kept start same

end Record

end BusRelay.Json
