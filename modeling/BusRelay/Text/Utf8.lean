/-!
# UTF-8

Text as octets, and back. `bytes` and `text?` are inverse to each other: reading accepts exactly the
octet sequences that writing produces (`text?_eq_some_iff`), so no two texts share their octets.
-/

namespace BusRelay.Utf8

/-- An octet sequence, as it travels. -/
abbrev Bytes := List UInt8

/-- The octets of a text. -/
def bytes (s : String) : Bytes := s.toByteArray.data.toList

/-- The text with these octets, if they are UTF-8. -/
def text? (bs : Bytes) : Option String := String.fromUTF8? bs.toByteArray

/-- The octets of one character. -/
def charBytes (c : Char) : Bytes := String.utf8EncodeChar c

theorem toByteArray_bytes (s : String) : (bytes s).toByteArray = s.toByteArray := by
  apply ByteArray.ext
  rw [bytes, List.data_toByteArray, Array.toArray_toList]

theorem text?_bytes (s : String) : text? (bytes s) = some s := by
  rw [text?, toByteArray_bytes, String.fromUTF8?, dif_pos s.isValidUTF8]
  rfl

theorem bytes_of_text? {bs : Bytes} {s : String} (h : text? bs = some s) : bytes s = bs := by
  unfold text? String.fromUTF8? at h
  split at h
  · injection h with h
    subst h
    simp [bytes, String.fromUTF8]
  · contradiction

/-- Reading accepts exactly what writing produces. -/
theorem text?_eq_some_iff {bs : Bytes} {s : String} : text? bs = some s ↔ bs = bytes s :=
  ⟨fun h => (bytes_of_text? h).symm, fun h => h ▸ text?_bytes s⟩

theorem bytes_injective {s t : String} (h : bytes s = bytes t) : s = t := by
  have := text?_bytes s
  rw [h, text?_bytes] at this
  exact (Option.some.inj this).symm

/-- The number of octets that a character starting with this octet has. -/
def charLength (b : UInt8) : Nat :=
  if b < 0x80 then 1 else if b < 0xE0 then 2 else if b < 0xF0 then 3 else 4

/-- The number of leading octets that are whole characters; all of them for UTF-8. -/
def validLength : (fuel : Nat) → Bytes → Nat
  | 0, _ => 0
  | _, [] => 0
  | fuel + 1, b :: rest =>
    let n := charLength b
    if (text? ((b :: rest).take n)).isSome then
      n + validLength fuel ((b :: rest).drop n)
    else 0

end BusRelay.Utf8
