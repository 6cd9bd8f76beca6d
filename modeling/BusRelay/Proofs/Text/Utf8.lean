import BusRelay.Text.Utf8
import Mathlib.Data.List.Basic
/-!
# Texts as octets, character by character

The octets of a text are those of its characters. A character of ASCII is one octet below 128, and all
octets of any other are above (`charBytes_ascii`, `le_of_mem_charBytes`). Where one character ends is seen
from its octets (`charBytes_append_inj`).
-/

namespace BusRelay.Utf8

theorem bytes_ofList (cs : List Char) : bytes (String.ofList cs) = cs.flatMap charBytes := by
  change ((cs.flatMap String.utf8EncodeChar).toByteArray).data.toList = _
  rw [List.data_toByteArray]
  rfl

theorem bytes_eq (s : String) : bytes s = s.toList.flatMap charBytes := by
  rw [← bytes_ofList, String.ofList_toList]

/-- The octets of characters. -/
def ofChars (cs : List Char) : Bytes := cs.flatMap charBytes

theorem ofChars_append (cs ds : List Char) : ofChars (cs ++ ds) = ofChars cs ++ ofChars ds :=
  List.flatMap_append

theorem ofChars_cons (c : Char) (cs : List Char) : ofChars (c :: cs) = charBytes c ++ ofChars cs := rfl

theorem toNat_ofNat_ascii {n : Nat} (ascii : n < 128) : (Char.ofNat n).toNat = n := by
  have valid : n.isValidChar := .inl (by omega)
  rw [Char.ofNat, dif_pos valid]
  rfl

theorem charBytes_ascii {c : Char} (ascii : c.toNat < 128) : charBytes c = [c.toNat.toUInt8] := by
  have small : c.val.toNat ≤ 0x7f := Nat.le_of_lt_succ ascii
  rw [charBytes, String.utf8EncodeChar, if_pos small]
  rfl

theorem toNat_toUInt8 {n : Nat} (small : n < 256) : n.toUInt8.toNat = n := by
  rw [Nat.toUInt8_eq, UInt8.toNat_ofNat', Nat.mod_eq_of_lt small]

theorem ofChars_ascii {cs : List Char} (ascii : ∀ c ∈ cs, c.toNat < 128) :
    ofChars cs = cs.map fun c => c.toNat.toUInt8 := by
  rw [ofChars, List.map_eq_flatMap]
  exact List.flatMap_congr fun c mem => charBytes_ascii (ascii c mem)

/-- The octets of ASCII texts are their code points. -/
theorem bytes_ascii {cs : List Char} (ascii : ∀ c ∈ cs, c.toNat < 128) :
    bytes (String.ofList cs) = cs.map fun c => c.toNat.toUInt8 :=
  (bytes_ofList cs).trans (ofChars_ascii ascii)

theorem le_of_mem_charBytes {c : Char} (other : 128 ≤ c.toNat) {b : UInt8} (mem : b ∈ charBytes c) :
    128 ≤ b.toNat := by
  have large : ¬ c.val.toNat ≤ 0x7f := Nat.not_le.2 other
  simp only [charBytes, String.utf8EncodeChar, if_neg large] at mem
  split at mem
  · simp only [List.mem_cons, List.not_mem_nil, or_false] at mem
    rcases mem with rfl | rfl <;> simp <;> omega
  · split at mem
    · simp only [List.mem_cons, List.not_mem_nil, or_false] at mem
      rcases mem with rfl | rfl | rfl <;> simp <;> omega
    · simp only [List.mem_cons, List.not_mem_nil, or_false] at mem
      rcases mem with rfl | rfl | rfl | rfl <;> simp <;> omega

/-- Only the first octet of a character starts a character. -/
theorem exists_charBytes (c : Char) : ∃ b tail, charBytes c = b :: tail ∧ b.IsUTF8FirstByte ∧
    ∀ t ∈ tail, ¬ t.IsUTF8FirstByte := by
  have some_ : 0 < (charBytes c).length := by
    rw [charBytes, String.length_utf8EncodeChar]
    exact c.utf8Size_pos
  have starts (i : Nat) (inside : i < (charBytes c).length) : (charBytes c)[i].IsUTF8FirstByte ↔ i = 0 :=
    UInt8.isUTF8FirstByte_getElem_utf8EncodeChar
  generalize charBytes c = octets at some_ starts
  cases octets with
  | nil => cases some_
  | cons b tail =>
    refine ⟨b, tail, rfl, (starts 0 (Nat.succ_pos _)).2 rfl, fun t mem => ?_⟩
    obtain ⟨i, inside, rfl⟩ := List.getElem_of_mem mem
    exact fun first => absurd ((starts (i + 1) (Nat.succ_lt_succ inside)).1 first) (Nat.succ_ne_zero i)

/-- No character's octets start with those of another. -/
theorem charBytes_append_inj {c d : Char} {bs es : Bytes} (same : charBytes c ++ bs = charBytes d ++ es) :
    c = d ∧ bs = es := by
  have decode (e : Char) (more : Bytes) : (charBytes e ++ more).toByteArray.utf8DecodeChar? 0 = some e := by
    rw [List.toByteArray_append]
    exact ByteArray.utf8DecodeChar?_utf8EncodeChar_append
  have first := decode c bs
  rw [same, decode d es] at first
  obtain rfl := Option.some.inj first
  exact ⟨rfl, List.append_cancel_left same⟩

end BusRelay.Utf8
