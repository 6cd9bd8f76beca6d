import BusRelay.Codec.Percent
import BusRelay.Proofs.Text.Utf8
/-!
# Percent-encoding is undone by decoding

As long as `%` is escaped, what is encoded decodes to the octets of the text (`decode_encode`), whichever
octets of ASCII stand for themselves. So no two texts have one encoding. Every `%` in it begins an escape
(`escape_of_encodeBytes`), and its octets are those that stand for themselves, `%` and digits
(`octet_of_encode`).
-/

namespace BusRelay.Percent

open Utf8 (Bytes)

/-- Which octets may stand for themselves. -/
def Readable (keep : UInt8 → Bool) : Prop := ∀ b, keep b = true → b.toNat < 128 ∧ b ≠ 37

theorem hexValue?_hexDigit {n : Nat} (small : n < 16) : hexValue? (hexDigit n).toNat.toUInt8 = some n := by
  revert n
  decide

theorem ascii_hexDigit {n : Nat} (small : n < 16) : (hexDigit n).toNat < 128 := by
  revert n
  decide

/-- The hexadecimal digits with capital letters. -/
def upperDigits : List Char := "0123456789ABCDEF".toList

theorem hexDigit_mem {n : Nat} (small : n < 16) : hexDigit n ∈ upperDigits := by
  revert n
  decide

theorem percent_not_mem : '%' ∉ upperDigits := by decide

/-- What is no percent sign stands for itself. -/
theorem decode_cons {b : UInt8} (plain : b ≠ 37) (rest : Bytes) : decode (b :: rest) = b :: decode rest := by
  match rest with
  | [] => rfl
  | [_] => simp [decode]
  | _ :: _ :: _ => rw [decode, if_neg plain]

theorem decode_escape (b : UInt8) (rest : Bytes) :
    decode ((escape b).map (fun c => c.toNat.toUInt8) ++ rest) = b :: decode rest := by
  have high : b.toNat / 16 < 16 := by
    have := b.toNat_lt
    omega
  have low : b.toNat % 16 < 16 := Nat.mod_lt _ (by decide)
  have whole : (b.toNat / 16 * 16 + b.toNat % 16).toUInt8 = b := by
    rw [Nat.div_add_mod' b.toNat 16]
    exact UInt8.ofNat_toNat
  simp only [escape, List.map_cons, List.map_nil, List.cons_append, List.nil_append]
  rw [decode, if_pos (by decide), hexValue?_hexDigit high, hexValue?_hexDigit low]
  simp only [whole]

section

variable {keep : UInt8 → Bool} (readable : Readable keep)

include readable

theorem ascii_encodeBytes (bs : Bytes) : ∀ c ∈ encodeBytes keep bs, c.toNat < 128 := by
  intro c mem
  obtain ⟨b, -, mem⟩ := List.mem_flatMap.1 mem
  have := b.toNat_lt
  split at mem
  · rename_i kept
    have ascii := (readable b kept).1
    rw [List.mem_singleton.1 mem, Utf8.toNat_ofNat_ascii ascii]
    exact ascii
  · simp only [escape, List.mem_cons, List.not_mem_nil, or_false] at mem
    rcases mem with rfl | rfl | rfl
    · decide
    · exact ascii_hexDigit (by omega)
    · exact ascii_hexDigit (by omega)

theorem decode_encodeBytes (bs : Bytes) :
    decode ((encodeBytes keep bs).map fun c => c.toNat.toUInt8) = bs := by
  induction bs with
  | nil => rfl
  | cons b rest ih =>
    rw [encodeBytes, List.flatMap_cons, List.map_append, ← encodeBytes]
    split
    · rename_i kept
      obtain ⟨ascii, plain⟩ := readable b kept
      have same : (Char.ofNat b.toNat).toNat.toUInt8 = b := by
        rw [Utf8.toNat_ofNat_ascii ascii]
        exact UInt8.ofNat_toNat
      rw [List.map_singleton, List.singleton_append, same, decode_cons plain, ih]
    · rw [decode_escape, ih]

theorem bytes_encode (s : String) : Utf8.bytes (encode keep s) =
    (encodeBytes keep (Utf8.bytes s)).map fun c => c.toNat.toUInt8 :=
  Utf8.bytes_ascii (ascii_encodeBytes readable _)

/-- An octet of what is encoded stands for itself, or it belongs to an escape. -/
theorem octet_of_encode {s : String} {b : UInt8} (mem : b ∈ Utf8.bytes (encode keep s)) :
    keep b = true ∨ b = 37 ∨ ∃ c ∈ upperDigits, b = c.toNat.toUInt8 := by
  rw [bytes_encode readable] at mem
  obtain ⟨c, among, rfl⟩ := List.mem_map.1 mem
  obtain ⟨a, -, among⟩ := List.mem_flatMap.1 among
  have := a.toNat_lt
  split at among
  · rename_i kept
    rw [List.mem_singleton.1 among, Utf8.toNat_ofNat_ascii (readable a kept).1, Nat.toUInt8_eq,
      UInt8.ofNat_toNat]
    exact .inl kept
  · simp only [escape, List.mem_cons, List.not_mem_nil, or_false] at among
    rcases among with rfl | rfl | rfl
    · exact .inr (.inl rfl)
    · exact .inr (.inr ⟨_, hexDigit_mem (by omega), rfl⟩)
    · exact .inr (.inr ⟨_, hexDigit_mem (by omega), rfl⟩)

/-- Wherever there is a percent sign, two digits follow. -/
theorem escape_of_encodeBytes {bs : Bytes} {before after : List Char}
    (split : encodeBytes keep bs = before ++ '%' :: after) :
    ∃ high ∈ upperDigits, ∃ low ∈ upperDigits, ∃ rest, after = high :: low :: rest := by
  induction bs generalizing before with
  | nil => cases before <;> cases split
  | cons b rest ih =>
    have := b.toNat_lt
    have high : hexDigit (b.toNat / 16) ∈ upperDigits := hexDigit_mem (by omega)
    have low : hexDigit (b.toNat % 16) ∈ upperDigits := hexDigit_mem (by omega)
    rw [encodeBytes, List.flatMap_cons, ← encodeBytes] at split
    by_cases kept : keep b = true
    · rw [if_pos kept, List.singleton_append] at split
      obtain ⟨ascii, plain⟩ := readable b kept
      cases before with
      | nil =>
        have percent : (Char.ofNat b.toNat).toNat = 37 := congrArg Char.toNat (List.cons.inj split).1
        rw [Utf8.toNat_ofNat_ascii ascii] at percent
        exact absurd (UInt8.toNat_inj.1 percent) plain
      | cons first before => exact ih (List.cons.inj split).2
    · rw [if_neg kept, escape] at split
      -- The sign is that of this escape, or it stands behind it, since the digits are none.
      match before with
      | [] => exact ⟨_, high, _, low, _, (List.cons.inj split).2.symm⟩
      | [_] =>
        have sign := (List.cons.inj (List.cons.inj split).2).1
        exact absurd (sign ▸ high) percent_not_mem
      | [_, _] =>
        have sign := (List.cons.inj (List.cons.inj (List.cons.inj split).2).2).1
        exact absurd (sign ▸ low) percent_not_mem
      | _ :: _ :: _ :: before =>
        exact ih (List.cons.inj (List.cons.inj (List.cons.inj split).2).2).2

/-- Decoding gives the octets of the text back. -/
theorem decode_encode (s : String) : decode (Utf8.bytes (encode keep s)) = Utf8.bytes s := by
  rw [bytes_encode readable, decode_encodeBytes readable]

theorem encode_injective {s t : String} (same : encode keep s = encode keep t) : s = t := by
  apply Utf8.bytes_injective
  rw [← decode_encode readable s, same, decode_encode readable]

end

end BusRelay.Percent
