import BusRelay.Proofs.Codec.Percent
import BusRelay.Url.Parser
/-!
# What a part of a URL decodes to

In a part of a URL some characters are escaped and all others stand as they are, percent signs among them.
So a part decodes to what the text decodes to that it was made of (`decode_encoded`), and to the text itself
if that has no escapes of its own.
-/

namespace BusRelay.Url

open Utf8 (Bytes)
open Percent (decode hexValue?)

/-! ## Octets -/

/-- An octet with a percent sign and two digits. -/
def escapeOctets (b : UInt8) : Bytes := (Percent.escape b).map fun c => c.toNat.toUInt8

/-- Some octets are escaped, none of them a percent sign or a hexadecimal digit. -/
inductive Escaped : Bytes → Bytes → Prop where
  | nil : Escaped [] []
  | kept {bs es : Bytes} (b : UInt8) (rest : Escaped bs es) : Escaped (b :: bs) (b :: es)
  | escaped {bs es : Bytes} {b : UInt8} (plain : b ≠ 37) (noDigit : hexValue? b = none)
      (rest : Escaped bs es) : Escaped (b :: bs) (escapeOctets b ++ es)

/-- The octet that two hexadecimal digits at the start write, and what follows them. -/
def readDigits? : Bytes → Option (UInt8 × Bytes)
  | b :: c :: rest => match hexValue? b, hexValue? c with
    | some high, some low => some ((high * 16 + low).toUInt8, rest)
    | _, _ => none
  | _ => none

/-- A percent sign goes with the two digits after it, or stands for itself. -/
theorem decode_percent (bs : Bytes) :
    decode (37 :: bs) = match readDigits? bs with
      | some (b, rest) => b :: decode rest
      | none => 37 :: decode bs := by
  match bs with
  | [] => rfl
  | [b] => rfl
  | b :: c :: rest =>
    rw [decode, if_pos rfl]
    simp only [readDigits?]
    cases hexValue? b <;> cases hexValue? c <;> rfl

theorem readDigits?_length {bs rest : Bytes} {b : UInt8} (read : readDigits? bs = some (b, rest)) :
    rest.length < bs.length := by
  unfold readDigits? at read
  split at read
  · split at read
    · cases read
      simp only [List.length_cons]
      omega
    · cases read
  · cases read

theorem readDigits?_noDigit {b : UInt8} (noDigit : hexValue? b = none) (bs : Bytes) :
    readDigits? (b :: bs) = none := by
  cases bs with
  | nil => rfl
  | cons c rest => simp only [readDigits?, noDigit]

theorem readDigits?_second {c : UInt8} (noDigit : hexValue? c = none) (b : UInt8) (bs : Bytes) :
    readDigits? (b :: c :: bs) = none := by
  simp only [readDigits?, noDigit]
  cases hexValue? b <;> rfl

/-- An escaped octet starts with a percent sign, which is no digit. -/
theorem readDigits?_escape (b : UInt8) (bs : Bytes) : readDigits? (escapeOctets b ++ bs) = none :=
  readDigits?_noDigit rfl _

namespace Escaped

variable {bs es : Bytes}

theorem append {bs' es' : Bytes} (first : Escaped bs es) (second : Escaped bs' es') :
    Escaped (bs ++ bs') (es ++ es') := by
  induction first with
  | nil => exact second
  | kept b rest ih => exact .kept b ih
  | escaped plain noDigit rest ih =>
    rw [List.append_assoc]
    exact .escaped plain noDigit ih

theorem refl (bs : Bytes) : Escaped bs bs := by
  induction bs with
  | nil => exact .nil
  | cons b bs ih => exact .kept b ih

theorem all (bs : Bytes) (plain : ∀ b ∈ bs, b ≠ 37 ∧ hexValue? b = none) :
    Escaped bs (bs.flatMap escapeOctets) := by
  induction bs with
  | nil => exact .nil
  | cons b bs ih =>
    obtain ⟨noPercent, noDigit⟩ := plain b List.mem_cons_self
    rw [List.flatMap_cons]
    exact .escaped noPercent noDigit (ih fun c mem => plain c (List.mem_cons_of_mem b mem))

/-- Two digits at the start are there with and without escapes. -/
theorem readDigits (h : Escaped bs es) {b : UInt8} {rest : Bytes} (read : readDigits? bs = some (b, rest)) :
    ∃ after, readDigits? es = some (b, after) ∧ Escaped rest after := by
  cases h with
  | nil => cases read
  | escaped plain noDigit rest =>
    rw [readDigits?_noDigit noDigit] at read
    cases read
  | kept a more =>
    cases more with
    | nil => cases read
    | escaped plain noDigit rest =>
      rw [readDigits?_second noDigit] at read
      cases read
    | @kept bs es c more =>
      simp only [readDigits?] at read ⊢
      cases high : hexValue? a with
      | none => simp only [high, reduceCtorEq] at read
      | some x =>
        cases low : hexValue? c with
        | none => simp only [high, low, reduceCtorEq] at read
        | some y =>
          simp only [high, low, Option.some.injEq, Prod.mk.injEq] at read ⊢
          obtain ⟨rfl, rfl⟩ := read
          exact ⟨es, ⟨rfl, rfl⟩, more⟩

theorem readDigits_none (h : Escaped bs es) (none : readDigits? bs = none) : readDigits? es = .none := by
  cases h with
  | nil => rfl
  | escaped plain noDigit rest => exact readDigits?_escape _ _
  | kept a more =>
    cases more with
    | nil => rfl
    | escaped plain noDigit rest => exact readDigits?_second rfl a _
    | kept c more =>
      simp only [readDigits?] at none ⊢
      cases high : hexValue? a with
      | none => rfl
      | some x =>
        cases low : hexValue? c with
        | none => rfl
        | some y => simp only [high, low, reduceCtorEq] at none

/-- Escaped or not, the same octets are read. The induction is on the number of octets, since a percent sign
may take two more with it. -/
theorem decode_eq (h : Escaped bs es) : decode es = decode bs := by
  induction size : bs.length using Nat.strongRecOn generalizing bs es with
  | ind size ih =>
    subst size
    cases h with
    | nil => rfl
    | @escaped bs es b plain noDigit rest =>
      have shorter : bs.length < (b :: bs).length := Nat.lt_succ_self _
      rw [escapeOctets, Percent.decode_escape, Percent.decode_cons plain, ih _ shorter rest rfl]
    | @kept bs es b rest =>
      have shorter : bs.length < (b :: bs).length := Nat.lt_succ_self _
      by_cases percent : b = 37
      · subst percent
        rw [decode_percent, decode_percent]
        cases read : readDigits? bs with
        | none =>
          rw [rest.readDigits_none read]
          simp only [ih _ shorter rest rfl]
        | some found =>
          obtain ⟨a, left⟩ := found
          obtain ⟨after, same, others⟩ := rest.readDigits read
          have fewer : left.length < (37 :: bs).length := Nat.lt_trans (readDigits?_length read) shorter
          rw [same]
          simp only [ih _ fewer others rfl]
      · rw [Percent.decode_cons percent, Percent.decode_cons percent, ih _ shorter rest rfl]

end Escaped

/-! ## Characters -/

/-- No percent sign and no hexadecimal digit is among the characters that are escaped. -/
def Harmless (set : Char → Bool) : Prop :=
  ∀ c, set c = true → ∀ b ∈ Utf8.charBytes c, b ≠ 37 ∧ hexValue? b = none

theorem ascii_escape (b : UInt8) : ∀ c ∈ Percent.escape b, c.toNat < 128 := by
  have := b.toNat_lt
  intro c mem
  simp only [Percent.escape, List.mem_cons, List.not_mem_nil, or_false] at mem
  rcases mem with rfl | rfl | rfl
  · decide
  · exact Percent.ascii_hexDigit (by omega)
  · exact Percent.ascii_hexDigit (by omega)

/-- The octets of escapes. -/
theorem ofChars_escapes (bs : Bytes) : Utf8.ofChars (bs.flatMap Percent.escape) = bs.flatMap escapeOctets := by
  induction bs with
  | nil => rfl
  | cons b bs ih =>
    rw [List.flatMap_cons, Utf8.ofChars_append, ih, Utf8.ofChars_ascii (ascii_escape b), List.flatMap_cons,
      escapeOctets]

theorem escaped_encodeSet {set : Char → Bool} (harmless : Harmless set) (cs : List Char) :
    Escaped (Utf8.ofChars cs) (Utf8.ofChars (encodeSet set cs)) := by
  induction cs with
  | nil => exact .nil
  | cons c cs ih =>
    rw [encodeSet, List.flatMap_cons, ← encodeSet, Utf8.ofChars_append, Utf8.ofChars_cons]
    split
    · rename_i among
      rw [ofChars_escapes]
      exact (Escaped.all _ (harmless c among)).append ih
    · have single : Utf8.ofChars [c] = Utf8.charBytes c := List.flatMap_singleton ..
      rw [single]
      exact (Escaped.refl _).append ih

/-- A part of a URL decodes to what its text decodes to. -/
theorem decode_encoded {set : Char → Bool} (harmless : Harmless set) (s : String) :
    decode (Utf8.bytes (encoded set s.toList)) = decode (Utf8.bytes s) := by
  rw [encoded, Utf8.bytes_ofList, Utf8.bytes_eq s]
  exact (escaped_encodeSet harmless s.toList).decode_eq

/-- No character beyond ASCII has the octet of a percent sign or of a digit. -/
theorem harmless_of_ascii {set : Char → Bool}
    (harmless : ∀ n < 128, set (Char.ofNat n) = true → n ≠ 37 ∧ hexValue? n.toUInt8 = none) :
    Harmless set := by
  intro c among b mem
  by_cases ascii : c.toNat < 128
  · rw [Utf8.charBytes_ascii ascii] at mem
    obtain rfl := List.mem_singleton.1 mem
    have same : Char.ofNat c.toNat = c := Char.ofNat_toNat c
    obtain ⟨plain, noDigit⟩ := harmless c.toNat ascii (by rw [same]; exact among)
    refine ⟨fun percent => plain ?_, noDigit⟩
    have value := congrArg UInt8.toNat percent
    rwa [Utf8.toNat_toUInt8 (by omega)] at value
  · have large := Utf8.le_of_mem_charBytes (Nat.not_lt.1 ascii) mem
    constructor
    · rintro rfl
      exact absurd large (by decide)
    · unfold hexValue?
      dsimp only
      rw [if_neg (by omega), if_neg (by omega), if_neg (by omega)]

theorem harmless_path : Harmless encodedInPath := harmless_of_ascii (by decide)

end BusRelay.Url
