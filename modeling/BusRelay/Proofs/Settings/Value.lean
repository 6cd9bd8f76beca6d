import BusRelay.Proofs.Decimal.Grammar
import BusRelay.Proofs.Text.Ascii
import BusRelay.Settings.Value
/-!
# What texts of variables stand for

The words `true` and `false` stand for flags, a text that writes an integer of 64 bits for this integer, one
that writes any other number for a floating-point number, and only what is left stands for itself
(`standsFor_read`). So a text is taken as it is if it is written as what it stands for is
(`StandsFor.asText_of_canonical`), and an integer of 64 bits as the integer that is written
(`StandsFor.natural_of_integer`).
-/

namespace BusRelay

namespace LowerCase

/-- The lower-case form of a text starts with that of its first character, if this is one of ASCII. -/
theorem lowerAfter_head {c : Char} (ascii : c.toNat < 128) (letter : Bool) (rest : List Char) :
    (lowerAfter letter (c :: rest)).head? = some c.toLower := by
  unfold lowerAfter
  split
  · rename_i same
    cases same
  · rename_i same
    obtain ⟨rfl, -⟩ := List.cons.inj same
    exact absurd ascii (by decide)
  · rename_i same
    obtain ⟨rfl, -⟩ := List.cons.inj same
    exact absurd ascii (by decide)
  · rename_i same
    obtain ⟨rfl, rfl⟩ := List.cons.inj same
    have plain : lowerChar c = c.toLower := if_pos ascii
    rw [List.head?_cons, plain]

end LowerCase

namespace SettingValue

open Floating (WritesInteger WritesNumber)

/-- A word for a flag, in any letter case. -/
def IsFlagWord (s : String) : Prop := LowerCase.lower s = "true" ∨ LowerCase.lower s = "false"

/-- A text that stands for nothing but itself. -/
structure Plain (s : String) : Prop where
  wordless : ¬ IsFlagWord s
  numberless : ¬ WritesNumber s.toList

/-- A text that is written as what it stands for is. -/
inductive Canonical : String → Prop where
  | text {s : String} (plain : Plain s) : Canonical s
  | flag (b : Bool) : Canonical (flag b).asText
  | integer {n : Int} (small : fits n = true) : Canonical (integer n).asText

/-- What a text stands for. -/
inductive StandsFor (s : String) : SettingValue → Prop where
  | flag {b : Bool} (word : LowerCase.lower s = (flag b).asText) : StandsFor s (.flag b)
  | integer {n : Int} (wordless : ¬ IsFlagWord s) (writes : WritesInteger s.toList n) (small : fits n = true) :
      StandsFor s (.integer n)
  | floating {x : Floating} (wordless : ¬ IsFlagWord s)
      (large : ∀ n, WritesInteger s.toList n → fits n = false) (reads : Floating.read? s.toList = some x) :
      StandsFor s (.floating x)
  | text (plain : Plain s) : StandsFor s (.text s)

theorem flagOf?_eq_some {s : String} {b : Bool} : flagOf? s = some b ↔ s = (flag b).asText := by
  constructor
  · intro word
    unfold flagOf? at word
    split at word
    · cases word
      rfl
    · cases word
      rfl
    · cases word
  · rintro rfl
    cases b <;> rfl

theorem standsFor_read (s : String) : StandsFor s (read s) := by
  unfold read
  split
  · rename_i b word
    exact .flag (flagOf?_eq_some.1 word)
  · rename_i noFlag
    have wordless : ¬ IsFlagWord s := by
      rintro (word | word)
      · rw [word] at noFlag
        cases noFlag
      · rw [word] at noFlag
        cases noFlag
    split
    · rename_i n found
      obtain ⟨reads, small⟩ := Option.filter_eq_some_iff.1 found
      exact .integer wordless (Floating.readInteger?_iff.1 reads) small
    · rename_i nothing
      have large : ∀ n, WritesInteger s.toList n → fits n = false := by
        intro n writes
        rw [Floating.readInteger?_iff.2 writes] at nothing
        simpa using nothing
      split
      · rename_i x reads
        exact .floating wordless large reads
      · rename_i none
        refine .text ⟨wordless, fun writes => ?_⟩
        rw [← Floating.read?_isSome_iff, none] at writes
        cases writes

/-- A word for a flag starts with a letter, so it writes no integer. -/
theorem wordless_of_integer {s : String} {n : Int} (writes : WritesInteger s.toList n) : ¬ IsFlagWord s := by
  obtain ⟨c, rest, split, first⟩ := writes.first
  have plain : c.toNat < 128 ∧ c.toLower ≠ 't' ∧ c.toLower ≠ 'f' := by
    rcases first with rfl | rfl | digit
    · decide
    · decide
    · have bounds := bounds_of_isDigit digit
      refine ⟨by omega, ?_, ?_⟩ <;>
        (rw [toLower_outside (.inl (by omega))]; rintro rfl; revert bounds; decide)
  have head : (LowerCase.lower s).toList.head? = some c.toLower := by
    rw [LowerCase.lower, String.toList_ofList, split]
    exact LowerCase.lowerAfter_head plain.1 false rest
  rintro (word | word)
  · rw [word] at head
    exact plain.2.1 (Option.some.inj head).symm
  · rw [word] at head
    exact plain.2.2 (Option.some.inj head).symm

/-- The digits of an integer write it. -/
theorem writes_integerText (n : Int) : WritesInteger (Json.integerText n).toList n := by
  have some : Nat.toDigits 10 n.natAbs ≠ [] := Nat.toDigits_ne_nil
  have run : Floating.IsDigits (Nat.toDigits 10 n.natAbs) := fun c mem =>
    Nat.isDigit_of_mem_toDigits (by decide) (by decide) mem
  rw [Json.integerText, String.toList_ofList]
  by_cases negative : n < 0
  · have writes := WritesInteger.mk .minus some run
    have value : -(n.natAbs : Int) = n := by omega
    rw [Nat.ofDigitChars_ten_toDigits, if_pos rfl, value] at writes
    rwa [if_pos negative]
  · have writes := WritesInteger.mk .none some run
    have value : (n.natAbs : Int) = n := by omega
    rw [Nat.ofDigitChars_ten_toDigits, if_neg Bool.false_ne_true, value] at writes
    rwa [if_neg negative]

/-- An integer is taken just if it is not negative. -/
theorem natural_of_some {n : Int} {k : Nat} (taken : (integer n).asNatural = .ok k) : 0 ≤ n ∧ k = n.toNat := by
  have asked : (integer n).asNatural = if 0 ≤ n then .ok n.toNat else .error (.integer n, .natural) := rfl
  rw [asked] at taken
  split at taken
  · rename_i whole
    exact ⟨whole, (Except.ok.inj taken).symm⟩
  · cases taken

theorem toNat_le_maxNatural (b : Bool) : b.toNat ≤ maxNatural := by
  cases b <;> decide

theorem clamped_le (limit : Nat) (x : Floating) : x.clamped limit ≤ limit := by
  unfold Floating.clamped
  split
  · exact Nat.min_le_left _ _
  · exact Nat.le_refl _
  · exact Nat.zero_le _
  · exact Nat.zero_le _

namespace StandsFor

variable {s : String} {v : SettingValue} (stands : StandsFor s v)

include stands

/-- A text that stands for nothing but itself stands for itself. -/
theorem text_of_plain (plain : Plain s) : v = .text s := by
  cases stands with
  | @flag b word =>
    cases b with
    | true => exact absurd (.inl word) plain.wordless
    | false => exact absurd (.inr word) plain.wordless
  | integer wordless writes small => exact absurd writes.number plain.numberless
  | floating wordless large reads =>
    refine absurd (Floating.read?_isSome_iff.1 ?_) plain.numberless
    rw [reads]
    rfl
  | text => rfl

/-- An integer of 64 bits stands for itself. -/
theorem integer_of_writes {n : Int} (writes : WritesInteger s.toList n) (small : fits n = true) :
    v = .integer n := by
  cases stands with
  | @flag b word =>
    refine absurd ?_ (wordless_of_integer writes)
    cases b with
    | true => exact .inl word
    | false => exact .inr word
  | integer wordless other => rw [writes.unique other]
  | floating wordless large reads =>
    have other := large n writes
    rw [small] at other
    cases other
  | text plain => exact absurd writes.number plain.numberless

/-- A word for a flag stands for this flag. -/
theorem flag_of_word {b : Bool} (word : LowerCase.lower s = (SettingValue.flag b).asText) : v = .flag b := by
  have flagWord : IsFlagWord s := by
    cases b with
    | true => exact .inl word
    | false => exact .inr word
  cases stands with
  | flag other =>
    have same := flagOf?_eq_some.2 (word.symm.trans other)
    rw [flagOf?_eq_some.2 rfl] at same
    rw [Option.some.inj same]
  | integer wordless => exact absurd flagWord wordless
  | floating wordless => exact absurd flagWord wordless
  | text plain => exact absurd flagWord plain.wordless

/-- A text that is written as what it stands for is taken as it is. -/
theorem asText_of_canonical (canonical : Canonical s) : v.asText = s := by
  cases canonical with
  | text plain => rw [stands.text_of_plain plain, asText]
  | flag b =>
    have lower : LowerCase.lower (SettingValue.flag b).asText = (SettingValue.flag b).asText := by
      cases b <;> decide +kernel
    rw [stands.flag_of_word lower]
  | @integer n small => rw [stands.integer_of_writes (writes_integerText n) small]

/-- An integer of 64 bits is taken as the one that is written, if it is taken at all. -/
theorem natural_of_integer {n : Int} (writes : WritesInteger s.toList n) (small : fits n = true) {k : Nat}
    (taken : v.asNatural = .ok k) : (k : Int) = n := by
  rw [stands.integer_of_writes writes small] at taken
  obtain ⟨whole, rfl⟩ := natural_of_some taken
  exact Int.toNat_of_nonneg whole

/-- Whatever is taken as an integer is one of 64 bits. -/
theorem natural_le {k : Nat} (taken : v.asNatural = .ok k) : k ≤ maxNatural := by
  cases stands with
  | @flag b word =>
    cases taken
    exact toNat_le_maxNatural b
  | @integer n wordless writes small =>
    obtain ⟨whole, rfl⟩ := natural_of_some taken
    have above : n < 9223372036854775808 := by
      simp only [fits, Bool.and_eq_true, decide_eq_true_eq] at small
      exact small.2
    have limit : maxNatural = 18446744073709551615 := rfl
    omega
  | @floating x wordless large reads =>
    cases taken
    exact clamped_le maxNatural x
  | text plain =>
    dsimp only [asNatural] at taken
    split at taken
    · cases taken
      exact toNat_le_maxNatural _
    · cases taken

end StandsFor

end SettingValue

end BusRelay
