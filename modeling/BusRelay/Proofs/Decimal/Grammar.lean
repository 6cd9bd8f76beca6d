import BusRelay.Decimal.Floating
import BusRelay.Proofs.List
import Mathlib.Data.List.TakeWhile
/-!
# Texts that write numbers

A grammar of the numbers that settings can be written as, without a word on how they are read. An integer is a
run of digits behind a sign or none, and exactly these texts are read as one (`readInteger?_iff`). A number has
a point and a power of ten besides, or is one of the words for infinity and for no number, and exactly these
texts are read as one (`read?_isSome_iff`).
-/

namespace BusRelay.Floating

/-! ## The grammar -/

/-- A sign or none, and whether it is that of negative numbers. -/
inductive IsSign : List Char → Bool → Prop where
  | none : IsSign [] false
  | plus : IsSign ['+'] false
  | minus : IsSign ['-'] true

/-- A run of digits, perhaps of none. -/
def IsDigits (s : List Char) : Prop := ∀ c ∈ s, c.isDigit = true

/-- A text that writes an integer. -/
inductive WritesInteger : List Char → Int → Prop where
  | mk {sign digits : List Char} {negative : Bool} (signed : IsSign sign negative) (some : digits ≠ [])
      (run : IsDigits digits) : WritesInteger (sign ++ digits)
        (if negative then -(Nat.ofDigitChars 10 digits 0 : Int) else Nat.ofDigitChars 10 digits 0)

/-- A power of ten, or none. -/
inductive IsPower : List Char → Prop where
  | none : IsPower []
  | some {mark : Char} {text : List Char} {n : Int} (marked : mark = 'e' ∨ mark = 'E')
      (power : WritesInteger text n) : IsPower (mark :: text)

/-- Digits with a point among them, at an end or nowhere, and a power of ten. -/
inductive IsDecimal : List Char → Prop where
  | whole {digits power : List Char} (run : IsDigits digits) (some : digits ≠ []) (scale : IsPower power) :
      IsDecimal (digits ++ power)
  | point {digits part power : List Char} (run : IsDigits digits) (tail : IsDigits part)
      (some : digits ++ part ≠ []) (scale : IsPower power) : IsDecimal (digits ++ '.' :: (part ++ power))

/-- A word for infinity or for no number, in any letter case. -/
def IsWord (s : List Char) : Prop :=
  String.ofList (s.map Char.toLower) = "inf" ∨ String.ofList (s.map Char.toLower) = "infinity" ∨
    String.ofList (s.map Char.toLower) = "nan"

/-- A text that writes a number. -/
inductive WritesNumber : List Char → Prop where
  | mk {sign text : List Char} {negative : Bool} (signed : IsSign sign negative)
      (number : IsWord text ∨ IsDecimal text) : WritesNumber (sign ++ text)

/-! ## Signs -/

/-- What comes first in a number behind its sign is no sign. -/
def Unsigned (s : List Char) : Prop := ∀ c ∈ s.head?, c ≠ '+' ∧ c ≠ '-'

theorem readSign_sign {sign : List Char} {negative : Bool} (signed : IsSign sign negative) {s : List Char}
    (unsigned : Unsigned s) : readSign (sign ++ s) = (negative, s) := by
  cases signed with
  | plus => rfl
  | minus => rfl
  | none =>
    cases s with
    | nil => rfl
    | cons c s =>
      obtain ⟨plus, minus⟩ := unsigned c rfl
      rw [List.nil_append]
      unfold readSign
      split
      · rename_i same
        exact absurd (List.cons.inj same).1 minus
      · rename_i same
        exact absurd (List.cons.inj same).1 plus
      · rfl

theorem readSign_cases (s : List Char) : ∃ sign, IsSign sign (readSign s).1 ∧ s = sign ++ (readSign s).2 := by
  unfold readSign
  split
  · exact ⟨['-'], .minus, rfl⟩
  · exact ⟨['+'], .plus, rfl⟩
  · exact ⟨[], .none, rfl⟩

/-! ## Integers -/

theorem IsDigits.unsigned {s : List Char} (run : IsDigits s) : Unsigned s := by
  intro c first
  have digit := run c (List.mem_of_mem_head? first)
  constructor <;> (rintro rfl; cases digit)

theorem readInteger?_iff {s : List Char} {n : Int} : readInteger? s = some n ↔ WritesInteger s n := by
  constructor
  · intro read
    obtain ⟨sign, signed, whole⟩ := readSign_cases s
    unfold readInteger? at read
    generalize readSign s = parts at read signed whole
    obtain ⟨negative, digits⟩ := parts
    subst whole
    dsimp only at read
    split at read
    · rename_i run
      cases read
      exact .mk signed run.1 (List.all_eq_true.1 run.2)
    · cases read
  · rintro ⟨signed, more, run⟩
    unfold readInteger?
    rw [readSign_sign signed run.unsigned]
    dsimp only
    rw [if_pos ⟨more, List.all_eq_true.2 run⟩]

/-! ## Numbers -/

theorem readExponent?_isSome {s : List Char} : (readExponent? s).isSome = true ↔ IsPower s := by
  cases s with
  | nil => exact ⟨fun _ => .none, fun _ => rfl⟩
  | cons mark text =>
    simp only [readExponent?]
    constructor
    · intro found
      split at found
      · rename_i marked
        obtain ⟨n, read⟩ := Option.isSome_iff_exists.1 found
        exact .some marked (readInteger?_iff.1 read)
      · cases found
    · rintro (_ | ⟨marked, power⟩)
      rw [if_pos marked, readInteger?_iff.2 power]
      rfl

/-- A power of ten starts with no digit and no point. -/
theorem IsPower.stops {power : List Char} (scale : IsPower power) :
    ∀ c ∈ power.head?, c.isDigit = false ∧ c ≠ '.' := by
  intro c first
  cases scale with
  | none => cases first
  | some marked =>
    cases first
    rcases marked with rfl | rfl <;> decide

/-- The digits behind a point, and what follows them; without a point there are none. -/
def fraction : List Char → List Char × List Char
  | '.' :: rest => (rest.takeWhile Char.isDigit, rest.dropWhile Char.isDigit)
  | rest => ([], rest)

theorem fraction_other {s : List Char} (pointless : ∀ c ∈ s.head?, c ≠ '.') : fraction s = ([], s) := by
  unfold fraction
  split
  · exact absurd rfl (pointless '.' rfl)
  · rfl

/-- Some digit has to be there, and a power of ten that is well formed. -/
theorem readDigits?_isSome_eq (negative : Bool) (s : List Char) : (readDigits? negative s).isSome = true ↔
    s.takeWhile Char.isDigit ++ (fraction (s.dropWhile Char.isDigit)).1 ≠ [] ∧
      IsPower (fraction (s.dropWhile Char.isDigit)).2 := by
  have written : readDigits? negative s =
      if s.takeWhile Char.isDigit ++ (fraction (s.dropWhile Char.isDigit)).1 = [] then none
      else (readExponent? (fraction (s.dropWhile Char.isDigit)).2).map fun e => ofDecimal negative
        (s.takeWhile Char.isDigit ++ (fraction (s.dropWhile Char.isDigit)).1)
        (e - (fraction (s.dropWhile Char.isDigit)).1.length) := rfl
  rw [written]
  split
  · rename_i empty
    exact ⟨fun found => absurd found Bool.false_ne_true, fun found => absurd empty found.1⟩
  · rename_i more
    rw [Option.isSome_map, readExponent?_isSome]
    exact (and_iff_right more).symm

theorem readDigits?_isSome {negative : Bool} {s : List Char} :
    (readDigits? negative s).isSome = true ↔ IsDecimal s := by
  rw [readDigits?_isSome_eq]
  constructor
  · rintro ⟨more, scale⟩
    have run : IsDigits (s.takeWhile Char.isDigit) := fun c mem => List.mem_takeWhile_imp mem
    have split : s = s.takeWhile Char.isDigit ++ s.dropWhile Char.isDigit := List.takeWhile_append_dropWhile.symm
    rw [split]
    generalize s.takeWhile Char.isDigit = digits at more run
    generalize s.dropWhile Char.isDigit = rest at more scale
    by_cases pointless : ∀ c ∈ rest.head?, c ≠ '.'
    · rw [fraction_other pointless] at more scale
      rw [List.append_nil] at more
      exact .whole run more scale
    · obtain ⟨behind, rfl⟩ : ∃ behind, rest = '.' :: behind := by
        cases rest with
        | nil => exact absurd (fun c first => by cases first) pointless
        | cons c behind =>
          by_cases point : c = '.'
          · exact ⟨behind, by rw [point]⟩
          · exact absurd (fun d first => Option.some.inj first ▸ point) pointless
      have tail : IsDigits (behind.takeWhile Char.isDigit) := fun c mem => List.mem_takeWhile_imp mem
      have made := IsDecimal.point run tail more scale
      rwa [fraction, List.takeWhile_append_dropWhile] at made
  · rintro (⟨run, more, scale⟩ | ⟨run, tail, more, scale⟩)
    · have stops := scale.stops
      rw [takeWhile_run Char.isDigit run fun c first => (stops c first).1,
        dropWhile_run Char.isDigit run fun c first => (stops c first).1,
        fraction_other fun c first => (stops c first).2, List.append_nil]
      exact ⟨more, scale⟩
    · have stops := scale.stops
      have point {rest : List Char} : ∀ c ∈ ('.' :: rest).head?, c.isDigit = false := by
        rintro c ⟨⟩
        decide
      rw [takeWhile_run Char.isDigit run point, dropWhile_run Char.isDigit run point, fraction,
        takeWhile_run Char.isDigit tail fun c first => (stops c first).1,
        dropWhile_run Char.isDigit tail fun c first => (stops c first).1]
      exact ⟨more, scale⟩

theorem IsWord.first {c : Char} {s : List Char} (word : IsWord (c :: s)) : c.toLower = 'i' ∨ c.toLower = 'n' := by
  have letters {name : String} (same : String.ofList ((c :: s).map Char.toLower) = name) :
      name.toList.head? = some c.toLower := by
    rw [← same, String.toList_ofList]
    rfl
  rcases word with inf | infinity | nan
  · exact .inl (Option.some.inj (letters inf)).symm
  · exact .inl (Option.some.inj (letters infinity)).symm
  · exact .inr (Option.some.inj (letters nan)).symm

theorem IsDecimal.first {c : Char} {s : List Char} (number : IsDecimal (c :: s)) : c.isDigit = true ∨ c = '.' := by
  generalize whole : c :: s = text at number
  cases number with
  | @whole digits power run some scale =>
    obtain ⟨d, more, rfl⟩ := List.exists_cons_of_ne_nil some
    cases whole
    exact .inl (run c List.mem_cons_self)
  | @point digits part power run tail some scale =>
    cases digits with
    | nil =>
      cases whole
      exact .inr rfl
    | cons d more =>
      cases whole
      exact .inl (run c List.mem_cons_self)

/-- Neither words nor digits start with a sign. -/
theorem unsigned_number {s : List Char} (number : IsWord s ∨ IsDecimal s) : Unsigned s := by
  cases s with
  | nil =>
    intro c first
    cases first
  | cons c s =>
    rintro _ ⟨⟩
    rcases number with word | digits
    · constructor <;>
        (rintro rfl; exact absurd word.first (by decide))
    · constructor <;>
        (rintro rfl; exact absurd digits.first (by decide))

/-- Exactly the texts that write a number are read as one. -/
theorem read?_isSome_iff {s : List Char} : (read? s).isSome = true ↔ WritesNumber s := by
  have written (negative : Bool) (text : List Char) : (
      if String.ofList (text.map Char.toLower) = "inf" ∨ String.ofList (text.map Char.toLower) = "infinity" then
        some (infinite negative)
      else if String.ofList (text.map Char.toLower) = "nan" then some nan
      else readDigits? negative text).isSome = true ↔ IsWord text ∨ IsDecimal text := by
    split
    · rename_i word
      exact ⟨fun _ => .inl (or_assoc.1 (.inl word)), fun _ => rfl⟩
    · rename_i noInfinity
      split
      · rename_i nan
        exact ⟨fun _ => .inl (.inr (.inr nan)), fun _ => rfl⟩
      · rename_i noNan
        have wordless : ¬ IsWord text := fun word => (or_assoc.2 word).elim noInfinity noNan
        rw [readDigits?_isSome]
        exact (or_iff_right wordless).symm
  constructor
  · intro found
    obtain ⟨sign, signed, whole⟩ := readSign_cases s
    rw [whole]
    exact .mk signed ((written _ _).1 found)
  · rintro ⟨signed, number⟩
    unfold read?
    rw [readSign_sign signed (unsigned_number number)]
    exact (written _ _).2 number

/-- A text that writes an integer writes a number. -/
theorem WritesInteger.number {s : List Char} {n : Int} (writes : WritesInteger s n) : WritesNumber s := by
  obtain ⟨signed, more, run⟩ := writes
  have digits := IsDecimal.whole run more .none
  rw [List.append_nil] at digits
  exact .mk signed (.inr digits)

/-- An integer starts with a sign or a digit. -/
theorem WritesInteger.first {s : List Char} {n : Int} (writes : WritesInteger s n) :
    ∃ c rest, s = c :: rest ∧ (c = '+' ∨ c = '-' ∨ c.isDigit = true) := by
  obtain ⟨signed, more, run⟩ := writes
  cases signed with
  | plus => exact ⟨_, _, rfl, .inl rfl⟩
  | minus => exact ⟨_, _, rfl, .inr (.inl rfl)⟩
  | none =>
    obtain ⟨d, rest, rfl⟩ := List.exists_cons_of_ne_nil more
    exact ⟨d, rest, rfl, .inr (.inr (run d List.mem_cons_self))⟩

theorem WritesInteger.unique {s : List Char} {n m : Int} (one : WritesInteger s n) (other : WritesInteger s m) :
    n = m :=
  Option.some.inj ((readInteger?_iff.2 one).symm.trans (readInteger?_iff.2 other))

end BusRelay.Floating
