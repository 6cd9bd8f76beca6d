import BusRelay.Proofs.Json.Content
/-!
# Texts in JSON text

Every text is read back from what is written for it between quotes, whatever follows
(`readText_escapeChars`), and what is written is a content of the grammar (`spells_escapeChars`).
-/

namespace BusRelay.Json

open Utf8 (Bytes)

/-- The content is one of the grammar and stands for these octets. -/
structure Spells (content octets : Bytes) : Prop where
  inside : IsContent content
  stands : StandsFor content (some octets)

/-! ## Control characters -/

/-- The digits of a control character are its number. -/
theorem controlDigits_spec {c : Char} (control : c.toNat < 0x20) : ∃ h l,
    Utf8.ofChars ('0' :: '0' :: controlDigits c) = [octet '0', octet '0', h, l] ∧
      hexValue? h = some (c.toNat / 16) ∧ hexValue? l = some (c.toNat % 16) := by
  have all : ∀ n < 0x20, (Utf8.ofChars ('0' :: '0' :: controlDigits (Char.ofNat n))).take 2 = [octet '0', octet '0'] ∧
      ((Utf8.ofChars ('0' :: '0' :: controlDigits (Char.ofNat n))).drop 2).map hexValue? =
        [some (n / 16), some (n % 16)] := by
    decide +kernel
  obtain ⟨zeros, digits⟩ := all c.toNat control
  rw [Char.ofNat_toNat] at zeros digits
  obtain ⟨h, more, rest, first, others⟩ := List.map_eq_cons_iff.1 digits
  obtain ⟨l, none_, rfl, second, last⟩ := List.map_eq_cons_iff.1 others
  rw [List.map_eq_nil_iff.1 last] at rest
  refine ⟨h, l, ?_, first, second⟩
  rw [← List.take_append_drop 2 (Utf8.ofChars _), zeros, rest]
  rfl

theorem isHex4_control {c : Char} (control : c.toNat < 0x20) :
    IsHex4 c.toNat (Utf8.ofChars ('0' :: '0' :: controlDigits c)) := by
  obtain ⟨h, l, octets, first, second⟩ := controlDigits_spec control
  intro text offset
  have zero : hexValue? (octet '0') = some 0 := by decide
  have value : ((0 * 16 + 0) * 16 + c.toNat / 16) * 16 + c.toNat % 16 = c.toNat := by omega
  simp only [octets, readHex4, List.cons_append, List.nil_append, zero, first, second, value]

/-! ## Characters -/

namespace Spells

variable {content octets : Bytes} {c : Char}

/-- An escape of one letter. -/
theorem letter {e : Char} (mem : e ∈ escapeLetters) (same : unescaped e = c) (more : Spells content octets) :
    Spells (Utf8.ofChars ['\\', e] ++ content) (Utf8.charBytes c ++ octets) := by
  have small : ∀ e ∈ escapeLetters, e.toNat < 128 := forall_mem_of_all (by decide)
  have ascii := small e mem
  have written : Utf8.ofChars ['\\', e] ++ content = octet '\\' :: octet e :: content := by
    rw [ofChars_octet (by decide), ofChars_octet ascii]
    rfl
  have stands := more.stands.letter mem
  rw [same] at stands
  rw [written]
  exact ⟨.letter mem more.inside, stands⟩

/-- An escape of a number. -/
theorem control (control : c.toNat < 0x20) (more : Spells content octets) :
    Spells (Utf8.ofChars (['\\', 'u', '0', '0'] ++ controlDigits c) ++ content) (Utf8.charBytes c ++ octets) := by
  have stands := more.stands.unicode (isHex4_control control) (.inl (by omega))
  rw [Char.ofNat_toNat] at stands
  obtain ⟨h, l, digits, first, second⟩ := controlDigits_spec control
  have hex : ∀ b ∈ [octet '0', octet '0', h, l], (hexValue? b).isSome = true := by
    have zero : (hexValue? (octet '0')).isSome = true := by decide
    simp [zero, first, second]
  refine ⟨?_, stands⟩
  have inside : IsContent (octet '\\' :: octet 'u' :: ([octet '0', octet '0', h, l] ++ content)) :=
    .unicode hex more.inside
  rw [← digits] at inside
  exact inside

/-- What is written for a character stands for it. -/
theorem escapeChar (c : Char) (more : Spells content octets) :
    Spells (Utf8.ofChars (escapeChar c) ++ content) (Utf8.charBytes c ++ octets) := by
  unfold Json.escapeChar
  -- Seven characters have a letter of their own.
  iterate 7
    split
    · subst c
      exact more.letter (by decide) rfl
  split
  · rename_i control
    exact more.control control
  · rename_i quote backslash _ _ _ _ _ visible
    rw [Utf8.ofChars_cons, Utf8.ofChars, List.flatMap_nil, List.append_nil]
    exact ⟨.character quote backslash visible more.inside,
      more.stands.plains fun b mem => plain_of_mem_charBytes quote backslash visible mem⟩

end Spells

/-! ## Texts -/

/-- What is written for characters stands for them. -/
theorem spells_escapeChars (cs : List Char) :
    Spells (Utf8.ofChars (cs.flatMap escapeChar)) (Utf8.ofChars cs) := by
  induction cs with
  | nil => exact ⟨.nil, .nil⟩
  | cons c cs ih =>
    rw [List.flatMap_cons, Utf8.ofChars_append, Utf8.ofChars_cons]
    exact ih.escapeChar c

/-- A text is read back from what stands between its quotes. -/
theorem readText_escapeChars (s : String) (rest : Bytes) (offset : Nat) : ∃ stop,
    readText ⟨Utf8.ofChars (s.toList.flatMap escapeChar) ++ octet '"' :: rest, offset⟩ =
      .ok (s, ⟨rest, stop⟩) := by
  have text : Utf8.text? (Utf8.ofChars s.toList) = some s := Utf8.text?_eq_some_iff.2 (Utf8.bytes_eq s).symm
  have gives := (spells_escapeChars s.toList).stands.readText rest offset
  rw [Option.bind_some, text] at gives
  generalize readText _ = result at gives ⊢
  cases gives with
  | read _ stop => exact ⟨stop, rfl⟩

end BusRelay.Json
