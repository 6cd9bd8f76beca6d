import BusRelay.Proofs.Json.Content
import BusRelay.Proofs.Json.Settled
import BusRelay.Proofs.Json.Value
/-!
# Steps of the reader

What each step of the reader has taken from the text if it did not fail, one lemma for each step. A value is a
scalar of the grammar, or a list or an object whose inside is read next (`readValue_ok`).
-/

namespace BusRelay.Json

open Utf8 (Bytes)

variable {c after : Cursor}

/-! ## Blanks, words and marks -/

theorem exists_skipBlanks (text : Bytes) (offset : Nat) :
    ∃ blanks, IsBlanks blanks ∧ text = blanks ++ (skipBlanks text offset).rest := by
  induction text generalizing offset with
  | nil => exact ⟨[], .nil, rfl⟩
  | cons b text ih =>
    rw [skipBlanks]
    split
    · rename_i here
      obtain ⟨blanks, blank, left⟩ := ih (offset + 1)
      exact ⟨b :: blanks, List.forall_mem_cons.2 ⟨here, blank⟩, by rw [List.cons_append, ← left]⟩
    · exact ⟨[], .nil, rfl⟩

theorem exists_blanks (c : Cursor) : ∃ blanks, IsBlanks blanks ∧ c.rest = blanks ++ c.blanks.rest :=
  exists_skipBlanks c.rest c.offset

theorem IsBlanks.append {first second : Bytes} (one : IsBlanks first) (other : IsBlanks second) :
    IsBlanks (first ++ second) :=
  List.forall_mem_append.2 ⟨one, other⟩

theorem rest_of_readIdentifier {cs : List Char} (read : readIdentifier cs c = .ok after) :
    c.rest = cs.map octet ++ after.rest := by
  induction cs generalizing c with
  | nil =>
    cases read
    rfl
  | cons expected cs ih =>
    rw [readIdentifier] at read
    split at read
    · cases read
    · rename_i b rest start
      split at read
      · rename_i same
        rw [start, same, List.map_cons, List.cons_append, ← ih read]
      · cases read

theorem rest_of_word {α : Type} {cs : List Char} {worth value : α}
    (read : (readIdentifier cs c).map (fun c => (worth, c)) = .ok (value, after)) :
    c.rest = cs.map octet ++ after.rest := by
  obtain ⟨next, done, same⟩ := map_ok read
  obtain rfl : next = after := congrArg Prod.snd same
  exact rest_of_readIdentifier done

theorem nextItem_end_ok {first : Bool} (read : nextItem first c = .ok (none, after)) :
    ∃ blanks, IsBlanks blanks ∧ c.rest = blanks ++ octet ']' :: after.rest := by
  obtain ⟨blanks, blank, left⟩ := exists_blanks c
  refine ⟨blanks, blank, ?_⟩
  rw [nextItem] at read
  dsimp only at read
  split at read
  · cases read
  rename_i b rest start
  rw [start] at left
  split at read
  · rename_i close
    cases read
    rw [left, close]
  · split at read
    · cases read
    · split at read
      · split at read
        · cases read
        · split at read <;> cases read
      · cases read

theorem nextItem_ok {first : Bool} {next : Cursor} (read : nextItem first c = .ok (some next, after)) :
    ∃ blanks before, IsBlanks blanks ∧ IsBlanks before ∧
      c.rest = blanks ++ (comma first ++ (before ++ next.rest)) := by
  obtain ⟨blanks, blank, left⟩ := exists_blanks c
  rw [nextItem] at read
  dsimp only at read
  split at read
  · cases read
  rename_i b rest start
  split at read
  · cases read
  split at read
  · rename_i first
    cases read
    subst first
    exact ⟨blanks, [], blank, .nil, left⟩
  · rename_i other
    split at read
    · rename_i same
      obtain ⟨before, blank_before, more⟩ := exists_blanks ⟨rest, c.blanks.offset + 1⟩
      have left : c.rest =
          blanks ++ (comma first ++ (before ++ (Cursor.blanks ⟨rest, c.blanks.offset + 1⟩).rest)) := by
        rw [left, start, same, ← more, Bool.eq_false_iff.2 other]
        rfl
      split at read
      · cases read
      · split at read
        · cases read
        · cases read
          exact ⟨blanks, before, blank, blank_before, left⟩
    · cases read

theorem nextName_end_ok {first : Bool} (read : nextName first c = .ok (none, after)) :
    ∃ blanks, IsBlanks blanks ∧ c.rest = blanks ++ octet '}' :: after.rest := by
  obtain ⟨blanks, blank, left⟩ := exists_blanks c
  refine ⟨blanks, blank, ?_⟩
  rw [nextName] at read
  dsimp only at read
  split at read
  · cases read
  rename_i b rest start
  rw [start] at left
  split at read
  · rename_i close
    cases read
    rw [left, close]
  · split at read
    · split at read <;> cases read
    · split at read
      · split at read
        · cases read
        · split at read
          · cases read
          · split at read <;> cases read
      · cases read

theorem nextName_ok {first : Bool} {next : Cursor} (read : nextName first c = .ok (some next, after)) :
    ∃ blanks before, IsBlanks blanks ∧ IsBlanks before ∧
      c.rest = blanks ++ (comma first ++ (before ++ octet '"' :: next.rest)) := by
  obtain ⟨blanks, blank, left⟩ := exists_blanks c
  rw [nextName] at read
  dsimp only at read
  split at read
  · cases read
  rename_i b rest start
  rw [start] at left
  split at read
  · cases read
  split at read
  · rename_i first
    split at read
    · rename_i quote
      cases read
      subst first
      exact ⟨blanks, [], blank, .nil, by rw [left, quote]; rfl⟩
    · cases read
  · rename_i other
    split at read
    · rename_i same
      obtain ⟨before, blank_before, more⟩ := exists_blanks ⟨rest, c.blanks.offset + 1⟩
      split at read
      · cases read
      · rename_i b' rest' start'
        rw [start'] at more
        split at read
        · rename_i quote
          cases read
          refine ⟨blanks, before, blank, blank_before, ?_⟩
          rw [left, same, show rest = _ from more, quote, Bool.eq_false_iff.2 other]
          rfl
        · split at read <;> cases read
    · cases read

theorem readColon_ok (read : readColon c = .ok after) :
    ∃ between, IsBlanks between ∧ c.rest = between ++ octet ':' :: after.rest := by
  obtain ⟨blanks, blank, left⟩ := exists_blanks c
  rw [readColon] at read
  split at read
  · cases read
  · rename_i b rest start
    split at read
    · rename_i colon
      cases read
      exact ⟨blanks, blank, by rw [left, start, colon]⟩
    · cases read

/-! ## Values -/

/-- A scalar that was read is the value that was made of it. -/
theorem leaf_ok {α : Type} {make : α → Nat → Tree} {read : Except Fault (α × Cursor)} {tree : Tree}
    {after : Cursor} (ok : leaf make read = (tree, .ok after)) :
    ∃ value, read = .ok (value, after) ∧ tree = make value after.offset := by
  cases read with
  | error fault => cases ok
  | ok result =>
    obtain ⟨value, c⟩ := result
    cases ok
    exact ⟨value, rfl, rfl⟩

theorem cut_ne_ok {fault : Fault} {tree : Tree} {after : Cursor} : cut fault ≠ (tree, .ok after) := nofun

/-- The tree is neither a list nor an object. -/
def IsScalar : Tree → Bool
  | .array .. | .object .. => false
  | _ => true

/-- How a value is read behind its blanks. -/
inductive Begins (fuel : Nat) : (depth : Nat) → Bytes → Tree → Cursor → Prop where
  | scalar {depth : Nat} {text rest : Bytes} {tree : Tree} {after : Cursor} (value : IsValue depth text)
      (left : rest = text ++ after.rest) (worth : ∃ raw, tree.toJson = .ok raw ∧ Within depth raw)
      (isScalar : IsScalar tree) : Begins fuel depth rest tree after
  | array {depth : Nat} {text : Bytes} {offset start : Nat} {items : List Tree} {after : Cursor}
      (inside : readItems depth true fuel ⟨text, offset⟩ = (items, .ok after)) :
      Begins fuel (depth + 1) (octet '[' :: text) (.array start items (.ok after.offset)) after
  | object {depth : Nat} {text : Bytes} {offset start : Nat} {members : List (String × Nat × Tree)} {after : Cursor}
      (inside : readMembers depth true fuel ⟨text, offset⟩ = (members, .ok after)) :
      Begins fuel (depth + 1) (octet '{' :: text) (.object start members (.ok after.offset)) after

theorem readValue_ok {depth fuel : Nat} {tree : Tree} (read : readValue depth (fuel + 1) c = (tree, .ok after)) :
    Begins fuel depth c.blanks.rest tree after := by
  rw [readValue] at read
  dsimp only at read
  split at read
  · exact absurd read cut_ne_ok
  rename_i b rest start
  rw [start]
  split at read
  · rename_i same
    obtain ⟨value, word, rfl⟩ := leaf_ok read
    have left : rest = _ := rest_of_word word
    exact .scalar (.null depth) (by rw [same, left]; rfl) ⟨_, rfl, .null depth⟩ rfl
  split at read
  · rename_i same
    obtain ⟨value, word, rfl⟩ := leaf_ok read
    have left : rest = _ := rest_of_word word
    exact .scalar (.true depth) (by rw [same, left]; rfl) ⟨_, rfl, .bool depth value⟩ rfl
  split at read
  · rename_i same
    obtain ⟨value, word, rfl⟩ := leaf_ok read
    have left : rest = _ := rest_of_word word
    exact .scalar (.false depth) (by rw [same, left]; rfl) ⟨_, rfl, .bool depth value⟩ rfl
  split at read
  · rename_i minus
    obtain ⟨value, number, rfl⟩ := leaf_ok read
    obtain ⟨text, magnitude, left⟩ := magnitude_of_readNumber number
    have left : rest = _ := left
    exact .scalar (.negative depth magnitude) (by rw [minus, left]; rfl)
      ⟨_, rfl, .number depth (fits_of_readNumber number)⟩ rfl
  split at read
  · obtain ⟨value, number, rfl⟩ := leaf_ok read
    obtain ⟨text, magnitude, left⟩ := magnitude_of_readNumber number
    exact .scalar (.number depth magnitude) (by rw [← left, start])
      ⟨_, rfl, .number depth (fits_of_readNumber number)⟩ rfl
  split at read
  · rename_i quote
    obtain ⟨value, text, rfl⟩ := leaf_ok read
    obtain ⟨content, inside, left⟩ := content_of_readText text
    have left : rest = _ := left
    exact .scalar (.string depth inside) (by rw [quote, left]; simp) ⟨_, rfl, .string depth value⟩ rfl
  split at read
  · rename_i bracket
    cases depth with
    | zero => exact absurd read cut_ne_ok
    | succ depth =>
      rw [if_neg (Nat.succ_ne_zero depth)] at read
      generalize inside : readItems (depth + 1 - 1) true fuel _ = result at read
      obtain ⟨items, left⟩ := result
      cases read
      subst bracket
      exact .array inside
  split at read
  · rename_i brace
    cases depth with
    | zero => exact absurd read cut_ne_ok
    | succ depth =>
      rw [if_neg (Nat.succ_ne_zero depth)] at read
      generalize inside : readMembers (depth + 1 - 1) true fuel _ = result at read
      obtain ⟨members, left⟩ := result
      cases read
      subst brace
      exact .object inside
  · exact absurd read cut_ne_ok

end BusRelay.Json
