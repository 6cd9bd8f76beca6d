import BusRelay.Json.Reader
import BusRelay.Proofs.Text.Utf8
/-!
# Integers in JSON text

An integer of 64 bits, with a sign or without one, is read back from its digits (`readNumber_natural`,
`readNumber_negative`), and every integer that is read is one (`isWord_of_readNumber`).
-/

namespace BusRelay.Json

open Utf8 (Bytes)

/-- An integer of 64 bits, with a sign or without one. -/
def IsWord (n : Int) : Prop := -(Nat.pow 2 63 : Int) ≤ n ∧ n ≤ maxNatural

/-- No digit follows, and nothing else of a number. -/
def EndsNumber (rest : Bytes) : Prop :=
  ∀ b ∈ rest.head?, isDigit b = false ∧ b ≠ octet '.' ∧ b ≠ octet 'e' ∧ b ≠ octet 'E'

theorem EndsNumber.nil : EndsNumber [] := nofun

/-! ## Digits -/

theorem toNat_of_isDigit {c : Char} (digit : c.isDigit = true) : 48 ≤ c.toNat ∧ c.toNat ≤ 57 :=
  Char.isDigit_iff_toNat.1 digit

theorem toNat_octet {c : Char} (ascii : c.toNat < 128) : (octet c).toNat = c.toNat :=
  Utf8.toNat_toUInt8 (by omega)

theorem octet_injective {c d : Char} (first : c.toNat < 128) (second : d.toNat < 128) (same : octet c = octet d) :
    c = d := by
  rw [← Char.toNat_inj, ← toNat_octet first, same, toNat_octet second]

theorem isDigit_iff {b : UInt8} : isDigit b = true ↔ 48 ≤ b.toNat ∧ b.toNat ≤ 57 := by
  simp [isDigit, UInt8.le_iff_toNat_le]

theorem isDigit_octet {c : Char} (digit : c.isDigit = true) : isDigit (octet c) = true := by
  have range := toNat_of_isDigit digit
  rw [isDigit_iff, toNat_octet (by omega)]
  exact range

theorem digitValue_octet {c : Char} (digit : c.isDigit = true) : digitValue (octet c) = c.toNat - '0'.toNat := by
  have range := toNat_of_isDigit digit
  rw [digitValue, toNat_octet (by omega)]
  rfl

theorem ofChars_octet {c : Char} (ascii : c.toNat < 128) (cs : List Char) :
    Utf8.ofChars (c :: cs) = octet c :: Utf8.ofChars cs := by
  rw [Utf8.ofChars_cons, Utf8.charBytes_ascii ascii]
  rfl

theorem ofChars_digit {c : Char} (digit : c.isDigit = true) (cs : List Char) :
    Utf8.ofChars (c :: cs) = octet c :: Utf8.ofChars cs :=
  ofChars_octet (Nat.lt_of_le_of_lt (toNat_of_isDigit digit).2 (by decide)) cs

theorem le_ofDigitChars (ds : List Char) (n : Nat) : n ≤ Nat.ofDigitChars 10 ds n := by
  induction ds generalizing n with
  | nil => simp
  | cons d ds ih =>
    rw [Nat.ofDigitChars_cons]
    exact Nat.le_trans (by omega) (ih _)

/-- Digits of a number within the limit are read to their end. -/
theorem digitsWithin_digits {limit n count offset : Nat} {ds : List Char} (digits : ∀ c ∈ ds, c.isDigit = true)
    (fits : Nat.ofDigitChars 10 ds n ≤ limit) {rest : Bytes} (ends : EndsNumber rest) :
    digitsWithin limit (Utf8.ofChars ds ++ rest) n count offset =
      (Nat.ofDigitChars 10 ds n, count + ds.length, ⟨rest, offset + ds.length⟩) := by
  induction ds generalizing n count offset with
  | nil =>
    cases rest with
    | nil => rfl
    | cons b rest =>
      have other := (ends b rfl).1
      simp [Utf8.ofChars, digitsWithin, other]
  | cons d ds ih =>
    have digit := digits d (by simp)
    rw [Nat.ofDigitChars_cons] at fits ⊢
    have small := Nat.le_trans (le_ofDigitChars ds _) fits
    rw [ofChars_digit digit, List.cons_append, digitsWithin, isDigit_octet digit, digitValue_octet digit, if_pos]
    · rw [ih (fun c mem => digits c (by simp [mem])) fits]
      simp [Nat.add_comm, Nat.add_left_comm]
    · simpa using small

theorem digitChar_ne_zero {n : Nat} (positive : 0 < n) (small : n < 10) : n.digitChar ≠ '0' := by
  have all : ∀ n < 10, 0 < n → n.digitChar ≠ '0' := by decide
  exact all n small positive

/-- No number but zero starts with a zero. -/
theorem head_toDigits {n : Nat} (positive : 0 < n) : ∃ d ds, Nat.toDigits 10 n = d :: ds ∧ d ≠ '0' := by
  induction n using Nat.strongRecOn with
  | _ n ih =>
    rw [Nat.toDigits_eq_if (by decide)]
    split
    · rename_i small
      exact ⟨_, [], rfl, digitChar_ne_zero positive small⟩
    · obtain ⟨d, ds, start, other⟩ := ih (n / 10) (by omega) (by omega)
      exact ⟨d, ds ++ [(n % 10).digitChar], by rw [start]; rfl, other⟩

theorem isDigit_toDigits (n : Nat) : ∀ c ∈ Nat.toDigits 10 n, c.isDigit = true :=
  fun _ mem => Nat.isDigit_of_mem_toDigits (by decide) (by decide) mem

/-! ## Writing -/

/-- An integer is written as it is printed, so it is read back by the reader of printed integers. -/
theorem integerText_eq_repr (n : Int) : integerText n = n.repr := by
  cases n with
  | ofNat n =>
    have natural : ¬ Int.ofNat n < 0 := Int.not_lt.2 (Int.natCast_nonneg n)
    rw [integerText, if_neg natural]
    rfl
  | negSucc n =>
    rw [integerText, if_pos (Int.negSucc_lt_zero n), String.ofList_append]
    rfl

theorem mem_integerText {n : Int} {c : Char} (mem : c ∈ (integerText n).toList) :
    c = '-' ∨ c.isDigit = true := by
  rw [integerText, String.toList_ofList] at mem
  rcases List.mem_append.1 mem with sign | digit
  · split at sign
    · exact .inl (List.mem_singleton.1 sign)
    · cases sign
  · exact .inr (isDigit_toDigits n.natAbs c digit)

/-! ## Reading back -/

theorem skipDigits_none {rest : Bytes} (ends : EndsNumber rest) (count offset : Nat) :
    skipDigits rest count offset = (count, ⟨rest, offset⟩) := by
  cases rest with
  | nil => rfl
  | cons b rest => simp [skipDigits, (ends b rfl).1]

/-- What a number without a fraction and a power of ten is. -/
def whole (negative : Bool) (digits : Nat) : Number :=
  if !negative then .integer digits
  else if digits = 0 || Nat.pow 2 63 < digits then .float ((Binary64.ofNat digits).getD (.zero false)).neg
  else .integer (-digits)

theorem readNumberTail_whole (negative : Bool) (digits : Nat) {c : Cursor} (ends : EndsNumber c.rest) :
    readNumberTail negative digits 0 c = .ok (whole negative digits, c) := by
  have value : (if (0 : Nat) ≠ 0 then floatFrom negative digits (0 : Nat) c
      else if !negative then .ok (.integer digits, c)
      else if digits = 0 || Nat.pow 2 63 < digits then
        .ok (.float ((Binary64.ofNat digits).getD (.zero false)).neg, c)
      else .ok (.integer (-digits), c)) = Except.ok (whole negative digits, c) := by
    rw [if_neg (by decide), whole]
    split
    · rfl
    · split <;> rfl
  rw [readNumberTail]
  split
  · rename_i b rest start
    obtain ⟨-, point, small, large⟩ := ends b (by rw [start]; rfl)
    rw [if_neg point, if_neg (by simp [small, large])]
    exact value
  · exact value

/-- The digits of a number of 64 bits are read. -/
theorem readNumber_digits (negative : Bool) {n : Nat} (fits : n ≤ maxNatural) {rest : Bytes}
    (ends : EndsNumber rest) (offset : Nat) : ∃ stop,
    readNumber negative ⟨Utf8.ofChars (Nat.toDigits 10 n) ++ rest, offset⟩ =
      .ok (whole negative n, ⟨rest, stop⟩) := by
  rcases Nat.eq_zero_or_pos n with rfl | positive
  · refine ⟨offset + 1, ?_⟩
    rw [Nat.toDigits_zero, ofChars_digit (by decide)]
    have zero : readNumberTail negative 0 0 ⟨rest, offset + 1⟩ = .ok (whole negative 0, ⟨rest, offset + 1⟩) :=
      readNumberTail_whole negative 0 ends
    cases rest with
    | nil => exact zero
    | cons b rest =>
      have other := (ends b rfl).1
      simp only [readNumber, Utf8.ofChars, List.flatMap_nil, List.nil_append, List.cons_append, if_pos, other]
      exact zero
  · obtain ⟨d, ds, start, other⟩ := head_toDigits positive
    have digits := isDigit_toDigits n
    have read : digitsWithin maxNatural (Utf8.ofChars (Nat.toDigits 10 n) ++ rest) 0 0 offset = _ :=
      digitsWithin_digits digits (by rwa [Nat.ofDigitChars_ten_toDigits]) ends
    rw [Nat.ofDigitChars_ten_toDigits] at read
    have digit : d.isDigit = true := digits d (by rw [start]; simp)
    have nonzero : octet d ≠ octet '0' := fun same =>
      other (octet_injective (Nat.lt_of_le_of_lt (toNat_of_isDigit digit).2 (by decide)) (by decide) same)
    rw [start] at read ⊢
    rw [ofChars_digit digit, List.cons_append] at read ⊢
    refine ⟨offset + (d :: ds).length, ?_⟩
    simp only [readNumber, if_neg nonzero, isDigit_octet digit, if_true, read, skipDigits_none ends]
    exact readNumberTail_whole negative n (c := ⟨rest, _⟩) ends

theorem whole_natural (n : Nat) : whole false n = .integer n := rfl

theorem whole_negative {n : Nat} (positive : 0 < n) (fits : n ≤ Nat.pow 2 63) : whole true n = .integer (-n) := by
  have inside : ¬ (n = 0 ∨ Nat.pow 2 63 < n) := by omega
  simp [whole, inside]

/-! ## What is read -/

theorem digitsWithin_le {limit n count offset : Nat} {text : Bytes} (fits : n ≤ limit) :
    (digitsWithin limit text n count offset).1 ≤ limit := by
  induction text generalizing n count offset with
  | nil => exact fits
  | cons b rest ih =>
    rw [digitsWithin]
    split
    · rename_i more
      exact ih (by simpa using (Bool.and_eq_true_iff.1 more).2)
    · exact fits

section

variable {negative : Bool} {digits : Nat} {power : Int} {c after : Cursor} {number : Number}

theorem floatFrom_ok (read : floatFrom negative digits power c = .ok (number, after)) :
    ∃ x, number = .float x := by
  rw [floatFrom] at read
  split at read
  · cases read
  · cases read
    exact ⟨_, rfl⟩

theorem readPower_ok (read : readPower negative digits power c = .ok (number, after)) :
    ∃ x, number = .float x := by
  simp only [readPower] at read
  repeat' split at read
  all_goals first
    | exact floatFrom_ok read
    | cases read <;> exact ⟨_, rfl⟩

theorem readPowerOrEnd_ok (read : readPowerOrEnd negative digits power c = .ok (number, after)) :
    ∃ x, number = .float x := by
  rw [readPowerOrEnd] at read
  split at read
  · split at read
    · exact readPower_ok read
    · exact floatFrom_ok read
  · exact floatFrom_ok read

theorem readFraction_ok (read : readFraction negative digits power c = .ok (number, after)) :
    ∃ x, number = .float x := by
  simp only [readFraction] at read
  split at read
  · split at read
    · cases read
    · exact floatFrom_ok read
  · split at read
    · exact readPowerOrEnd_ok read
    · split at read
      · cases read
      · exact readPowerOrEnd_ok read

/-- A number that is an integer fits 64 bits. -/
def Number.Fits (number : Number) : Prop := ∀ n, number = .integer n → IsWord n

theorem Number.Fits.of_float (float : ∃ x, number = .float x) : number.Fits := by
  obtain ⟨x, rfl⟩ := float
  exact nofun

theorem fits_whole (small : digits ≤ maxNatural) : (whole negative digits).Fits := by
  rintro n same
  rw [whole] at same
  split at same
  · cases same
    constructor <;> omega
  · split at same
    · cases same
    · rename_i inside
      simp only [Bool.or_eq_true, decide_eq_true_eq, not_or] at inside
      cases same
      constructor <;> omega

theorem readNumberTail_ok {dropped : Nat} (read : readNumberTail negative digits dropped c = .ok (number, after)) :
    (∃ x, number = .float x) ∨ number = whole negative digits := by
  have end_ (done : (if dropped ≠ 0 then floatFrom negative digits dropped c
      else if !negative then .ok (.integer digits, c)
      else if digits = 0 || Nat.pow 2 63 < digits then
        .ok (.float ((Binary64.ofNat digits).getD (.zero false)).neg, c)
      else .ok (.integer (-digits), c)) = Except.ok (number, after)) :
      (∃ x, number = .float x) ∨ number = whole negative digits := by
    rw [whole]
    split at done
    · exact .inl (floatFrom_ok done)
    · right
      split at done
      · cases done
        simp_all
      · split at done <;> cases done <;> simp_all
  rw [readNumberTail] at read
  split at read
  · split at read
    · exact .inl (readFraction_ok read)
    · split at read
      · exact .inl (readPower_ok read)
      · exact end_ read
  · exact end_ read

theorem fits_of_readNumber (read : readNumber negative c = .ok (number, after)) : number.Fits := by
  have fits {digits dropped : Nat} {c : Cursor} (small : digits ≤ maxNatural)
      (read : readNumberTail negative digits dropped c = .ok (number, after)) : number.Fits := by
    rcases readNumberTail_ok read with float | rfl
    · exact .of_float float
    · exact fits_whole small
  rw [readNumber] at read
  split at read
  · cases read
  · split at read
    · split at read
      · split at read
        · cases read
        · exact fits (Nat.zero_le _) read
      · exact fits (Nat.zero_le _) read
    · split at read
      · exact fits (digitsWithin_le (Nat.zero_le _)) read
      · cases read

end

end BusRelay.Json
