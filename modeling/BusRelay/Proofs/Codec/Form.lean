import BusRelay.Codec.Form
import BusRelay.Proofs.Codec.Percent
/-!
# Form text is undone by decoding

Form text decodes to the octets of the text that it was made of (`decode_encode`), so no two texts have one form
text. It is made of the octets that stand for themselves, plus signs and percent signs (`mem_encode`), so a form
text never holds a character that separates fields.
-/

namespace BusRelay.Form

open Utf8 (Bytes)

/-- What stands for itself is of ASCII, and none of the characters by which other octets are written. -/
theorem plain_bounds {b : UInt8} (plain : isPlain b = true) : b.toNat < 128 ∧ b ≠ 37 ∧ b ≠ 43 := by
  have all : ∀ n < 256, isPlain (UInt8.ofNat n) = true →
      (UInt8.ofNat n).toNat < 128 ∧ UInt8.ofNat n ≠ 37 ∧ UInt8.ofNat n ≠ 43 := by
    decide +kernel
  have here := all b.toNat b.toNat_lt
  rw [UInt8.ofNat_toNat] at here
  exact here plain

theorem isPlain_hexDigit {n : Nat} (small : n < 16) : isPlain (Percent.hexDigit n).toNat.toUInt8 = true := by
  revert n
  decide

/-! ## The characters of form text -/

/-- A character that form text is made of. -/
structure IsFormChar (c : Char) : Prop where
  ascii : c.toNat < 128
  plain : isPlain c.toNat.toUInt8 = true ∨ c = '+' ∨ c = '%'

theorem isFormChar_hexDigit {n : Nat} (small : n < 16) : IsFormChar (Percent.hexDigit n) :=
  ⟨Percent.ascii_hexDigit small, .inl (isPlain_hexDigit small)⟩

theorem mem_encodeBytes {bs : Bytes} {c : Char} (mem : c ∈ encodeBytes bs) : IsFormChar c := by
  obtain ⟨b, -, mem⟩ := List.mem_flatMap.1 mem
  split at mem
  · rename_i plain
    have ascii := (plain_bounds plain).1
    obtain rfl := List.mem_singleton.1 mem
    refine ⟨?_, .inl ?_⟩
    · rwa [Utf8.toNat_ofNat_ascii ascii]
    · rwa [Utf8.toNat_ofNat_ascii ascii, Nat.toUInt8_eq, UInt8.ofNat_toNat]
  · split at mem
    · obtain rfl := List.mem_singleton.1 mem
      exact ⟨by decide, .inr (.inl rfl)⟩
    · have := b.toNat_lt
      simp only [Percent.escape, List.mem_cons, List.not_mem_nil, or_false] at mem
      rcases mem with rfl | rfl | rfl
      · exact ⟨by decide, .inr (.inr rfl)⟩
      · exact isFormChar_hexDigit (by omega)
      · exact isFormChar_hexDigit (by omega)

theorem mem_encode {s : String} {c : Char} (mem : c ∈ (encode s).toList) : IsFormChar c := by
  rw [encode, String.toList_ofList] at mem
  exact mem_encodeBytes mem

/-- A separator of fields or lines stands in no form text. -/
theorem not_mem_encode {c : Char} (apart : isPlain c.toNat.toUInt8 = false ∧ c ≠ '+' ∧ c ≠ '%') (s : String) :
    c ∉ (encode s).toList := by
  intro mem
  rcases (mem_encode mem).plain with plain | plus | percent
  · rw [apart.1] at plain
    cases plain
  · exact apart.2.1 plus
  · exact apart.2.2 percent

/-! ## Decoding -/

/-- What plus signs are read as, octet by octet. -/
def spaced (text : Bytes) : Bytes := text.map fun b => if b = 43 then 32 else b

theorem decode_eq (text : Bytes) : decode text = Percent.decode (spaced text) := rfl

/-- An escape has no plus sign. -/
theorem spaced_escape (b : UInt8) : spaced ((Percent.escape b).map fun c => c.toNat.toUInt8) =
    (Percent.escape b).map fun c => c.toNat.toUInt8 := by
  have digit {n : Nat} (small : n < 16) : (Percent.hexDigit n).toNat.toUInt8 ≠ 43 :=
    (plain_bounds (isPlain_hexDigit small)).2.2
  have percent : ('%').toNat.toUInt8 ≠ 43 := by decide
  have := b.toNat_lt
  simp only [spaced, Percent.escape, List.map_cons, List.map_nil, if_neg percent,
    if_neg (digit (n := b.toNat / 16) (by omega)), if_neg (digit (n := b.toNat % 16) (by omega))]

theorem decode_encodeBytes (bs : Bytes) : decode ((encodeBytes bs).map fun c => c.toNat.toUInt8) = bs := by
  rw [decode_eq]
  induction bs with
  | nil => rfl
  | cons b rest ih =>
    rw [encodeBytes, List.flatMap_cons, List.map_append, ← encodeBytes, spaced, List.map_append, ← spaced, ← spaced]
    split
    · rename_i plain
      obtain ⟨ascii, percent, plus⟩ := plain_bounds plain
      have same : (Char.ofNat b.toNat).toNat.toUInt8 = b := by
        rw [Utf8.toNat_ofNat_ascii ascii]
        exact UInt8.ofNat_toNat
      rw [List.map_singleton, same, spaced, List.map_singleton, if_neg plus, List.singleton_append,
        Percent.decode_cons percent, ih]
    · split
      · rename_i blank
        have space : spaced (['+'].map fun c => c.toNat.toUInt8) = [32] := by decide
        rw [space, List.singleton_append, Percent.decode_cons (by decide), ih, blank]
      · rw [spaced_escape, Percent.decode_escape, ih]

/-- Decoding gives the octets of the text back. -/
theorem decode_encode (s : String) : decode (Utf8.bytes (encode s)) = Utf8.bytes s := by
  have ascii : ∀ c ∈ encodeBytes (Utf8.bytes s), c.toNat < 128 := by
    intro c mem
    exact (mem_encodeBytes mem).ascii
  rw [encode, Utf8.bytes_ascii ascii, decode_encodeBytes]

theorem encode_injective {s t : String} (same : encode s = encode t) : s = t := by
  apply Utf8.bytes_injective
  rw [← decode_encode s, same, decode_encode t]

end BusRelay.Form
