import BusRelay.Proofs.Time.Instant
import BusRelay.Time.Rfc3339
import Mathlib.Data.List.Basic
/-!
# A written instant tells which it is

No two instants are written alike (`chars_injective`), if they have leap seconds only where minutes end.
Every field but the year has a fixed width, so it is found from the letter between date and time of day.
-/

namespace BusRelay

/-- A second has at most twice 10^9 nanoseconds, and more than 10^9 only at the end of a minute. -/
def Instant.IsRegular (t : Instant) : Prop :=
  t.nanoseconds < 2000000000 ∧ (1000000000 ≤ t.nanoseconds → t.seconds % 60 = 59)

namespace Rfc3339

/-! ## Numbers -/

theorem isDigit_padded {width n : Nat} {c : Char} (mem : c ∈ padded width n) : c.isDigit = true := by
  rcases List.mem_append.1 mem with zero | digit
  · rw [List.eq_of_mem_replicate zero]
    rfl
  · exact Nat.isDigit_of_mem_toDigits (by decide) (by decide) digit

theorem ofDigitChars_padded (width n : Nat) : Nat.ofDigitChars 10 (padded width n) 0 = n := by
  simp [padded, Nat.ofDigitChars_append]

theorem padded_injective {width a b : Nat} (same : padded width a = padded width b) : a = b := by
  rw [← ofDigitChars_padded width a, same, ofDigitChars_padded]

/-- A number that fits has the width. -/
theorem length_padded {width n : Nat} (positive : 0 < width) (fits : n < Nat.pow 10 width) :
    (padded width n).length = width := by
  have digits := (Nat.length_toDigits_le_iff (b := 10) (by decide) positive).2 fits
  simp [padded, digits]

/-- What is no digit is in no number. -/
theorem notMem_padded {width n : Nat} {c : Char} (other : c.isDigit = false) : c ∉ padded width n := by
  intro mem
  rw [isDigit_padded mem] at other
  cases other

/-- A separator that is not in what comes before it tells where this ends. -/
theorem separated {a b rest rest' : List Char} {c : Char} (none : c ∉ a) (none' : c ∉ b)
    (same : a ++ c :: rest = b ++ c :: rest') : a = b ∧ rest = rest' := by
  induction a generalizing b with
  | nil =>
    cases b with
    | nil => exact ⟨rfl, (List.cons.inj same).2⟩
    | cons first b => exact absurd ((List.cons.inj same).1 ▸ List.mem_cons_self) none'
  | cons first a ih =>
    cases b with
    | nil => exact absurd ((List.cons.inj same).1 ▸ List.mem_cons_self) none
    | cons first' b =>
      obtain ⟨rfl, tails⟩ := List.cons.inj same
      obtain ⟨rfl, rests⟩ := ih (fun mem => none (List.mem_cons_of_mem _ mem))
        (fun mem => none' (List.mem_cons_of_mem _ mem)) tails
      exact ⟨rfl, rests⟩

/-- A number up to a separator, and what comes after it. -/
theorem field_injective {width a b : Nat} {c : Char} {rest rest' : List Char} (other : c.isDigit = false)
    (same : padded width a ++ c :: rest = padded width b ++ c :: rest') : a = b ∧ rest = rest' := by
  obtain ⟨fields, rests⟩ := separated (notMem_padded other) (notMem_padded other) same
  exact ⟨padded_injective fields, rests⟩

theorem yearChars_injective {a b : Int} (same : yearChars a = yearChars b) : a = b := by
  -- No number starts with a sign.
  have signed {n : Nat} {year : Int} {rest : List Char} :
      padded 4 n ≠ (if year < 0 then '-' else '+') :: rest := by
    intro eq
    have first : (if year < 0 then '-' else '+') ∈ padded 4 n := eq ▸ List.mem_cons_self
    split at first <;> exact notMem_padded rfl first
  by_cases plain : 0 ≤ a ∧ a ≤ 9999 <;> by_cases plain' : 0 ≤ b ∧ b ≤ 9999 <;>
    simp only [yearChars, plain, plain', if_false] at same
  · have := padded_injective same
    omega
  · exact absurd same signed
  · exact absurd same.symm signed
  · obtain ⟨sign, number⟩ := List.cons.inj same
    have number := padded_injective number
    split at sign <;> split at sign <;> first | omega | cases sign

/-! ## The time of day -/

/-- How many digits a fraction has. -/
def fractionWidth (n : Nat) : Nat :=
  if n = 0 then 0 else if n % 1000000 = 0 then 3 else if n % 1000 = 0 then 6 else 9

theorem fractionWidth_le (n : Nat) : fractionWidth n ≤ 9 := by
  unfold fractionWidth
  grind

theorem fractionWidth_eq_zero {n : Nat} (none : fractionWidth n = 0) : n = 0 := by
  unfold fractionWidth at none
  grind

theorem fractionChars_eq (n : Nat) : fractionChars n =
    if fractionWidth n = 0 then [] else '.' :: padded (fractionWidth n) (n / Nat.pow 10 (9 - fractionWidth n)) := by
  unfold fractionChars fractionWidth
  by_cases none : n = 0
  · simp [none]
  · by_cases three : n % 1000000 = 0
    · simp [none, three]
    · by_cases six : n % 1000 = 0 <;> simp [none, three, six]

/-- The digits that are left out are zeros. -/
theorem fraction_whole (n : Nat) :
    n / Nat.pow 10 (9 - fractionWidth n) * Nat.pow 10 (9 - fractionWidth n) = n := by
  refine Nat.div_mul_cancel (Nat.dvd_of_mod_eq_zero ?_)
  unfold fractionWidth
  split
  · simp_all
  · split
    · assumption
    · split
      · assumption
      · exact Nat.mod_one n

theorem length_fractionChars {n : Nat} (fits : n < 1000000000) :
    (fractionChars n).length = if fractionWidth n = 0 then 0 else fractionWidth n + 1 := by
  rw [fractionChars_eq]
  split
  · rfl
  · rename_i positive
    have digits : n / Nat.pow 10 (9 - fractionWidth n) < Nat.pow 10 (fractionWidth n) := by
      rw [Nat.pow_eq, Nat.pow_eq, Nat.div_lt_iff_lt_mul (Nat.pow_pos (by decide)), ← Nat.pow_add,
        Nat.add_sub_cancel' (fractionWidth_le n)]
      exact fits
    rw [List.length_cons, length_padded (by omega) digits]

theorem fractionChars_injective {a b : Nat} (fits : a < 1000000000) (fits' : b < 1000000000)
    (same : fractionChars a = fractionChars b) : a = b := by
  have lengths := congrArg List.length same
  rw [length_fractionChars fits, length_fractionChars fits'] at lengths
  have widths : fractionWidth a = fractionWidth b := by
    split at lengths <;> split at lengths <;> omega
  rw [fractionChars_eq, fractionChars_eq, widths] at same
  split at same
  · rename_i none
    rw [fractionWidth_eq_zero (widths.trans none), fractionWidth_eq_zero none]
  · have quotients := padded_injective (List.cons.inj same).2
    rw [← fraction_whole a, widths, quotients, fraction_whole]

/-! ## Instants -/

/-- The second as it is written: a leap second is the sixty-first. -/
def writtenSecond (t : Instant) : Nat :=
  if 1000000000 ≤ t.nanoseconds then t.secondOfDay % 60 + 1 else t.secondOfDay % 60

def writtenNanoseconds (t : Instant) : Nat :=
  if 1000000000 ≤ t.nanoseconds then t.nanoseconds - 1000000000 else t.nanoseconds

theorem chars_eq (t : Instant) : chars t =
    (yearChars t.date.year ++ '-' :: (padded 2 t.date.month ++ '-' :: padded 2 t.date.day)) ++ 'T' ::
      (padded 2 (t.secondOfDay / 3600) ++ ':' :: (padded 2 (t.secondOfDay / 60 % 60) ++ ':' ::
        (padded 2 (writtenSecond t) ++ fractionChars (writtenNanoseconds t)))) := by
  simp [chars, writtenSecond, writtenNanoseconds]

/-- The date ends where the letter is. -/
theorem notMem_date (year : Int) (month day : Nat) :
    'T' ∉ yearChars year ++ '-' :: (padded 2 month ++ '-' :: padded 2 day) := by
  have none {width n : Nat} : 'T' ∉ padded width n := notMem_padded rfl
  unfold yearChars
  split
  · simp [none]
  · split <;> simp [none]

theorem date_injective {a b : Date} (small : a.month ≤ 12 ∧ a.day ≤ 31) (small' : b.month ≤ 12 ∧ b.day ≤ 31)
    (same : yearChars a.year ++ '-' :: (padded 2 a.month ++ '-' :: padded 2 a.day) =
      yearChars b.year ++ '-' :: (padded 2 b.month ++ '-' :: padded 2 b.day)) : a = b := by
  have length {n : Nat} (fits : n < 100) : (padded 2 n).length = 2 := length_padded (by decide) fits
  obtain ⟨years, rests⟩ := List.append_inj' same (by
    simp [length (by omega : a.month < 100), length (by omega : a.day < 100),
      length (by omega : b.month < 100), length (by omega : b.day < 100)])
  obtain ⟨months, days⟩ := field_injective rfl (List.cons.inj rests).2
  obtain ⟨year, month, day⟩ := a
  obtain ⟨year', month', day'⟩ := b
  rw [Date.mk.injEq]
  exact ⟨yearChars_injective years, months, padded_injective days⟩

/-- The second is written in two digits, and above 59 just for a leap second. -/
theorem writtenSecond_cases {t : Instant} (regular : t.IsRegular) :
    writtenSecond t < 100 ∧ (writtenSecond t = 60 ↔ 1000000000 ≤ t.nanoseconds) ∧
      t.secondOfDay % 60 = min (writtenSecond t) 59 := by
  have ends := regular.2
  have second : (t.secondOfDay : Int) = t.seconds % 86400 := Int.toNat_of_nonneg (by omega)
  unfold writtenSecond
  split <;> omega

theorem writtenNanoseconds_lt {t : Instant} (regular : t.IsRegular) : writtenNanoseconds t < 1000000000 := by
  have bound := regular.1
  unfold writtenNanoseconds
  split <;> omega

/-- No two instants are written alike. -/
theorem chars_injective {t u : Instant} (regular : t.IsRegular) (regular' : u.IsRegular)
    (same : chars t = chars u) : t = u := by
  rw [chars_eq, chars_eq] at same
  obtain ⟨dates, times⟩ := separated (notMem_date _ _ _) (notMem_date _ _ _) same
  obtain ⟨hours, times⟩ := field_injective rfl times
  obtain ⟨minutes, times⟩ := field_injective rfl times
  obtain ⟨small, leap, second⟩ := writtenSecond_cases regular
  obtain ⟨small', leap', second'⟩ := writtenSecond_cases regular'
  have width {n : Nat} (fits : n < 100) : (padded 2 n).length = 2 := length_padded (by decide) fits
  obtain ⟨seconds, fractions⟩ := List.append_inj times ((width small).trans (width small').symm)
  have seconds := padded_injective seconds
  have fractions :=
    fractionChars_injective (writtenNanoseconds_lt regular) (writtenNanoseconds_lt regular') fractions
  have days : t.seconds / 86400 = u.seconds / 86400 :=
    Date.ofDays_injective (date_injective (Date.ofDays_bounds _) (Date.ofDays_bounds _) dates)
  have ofDay {t : Instant} : (t.secondOfDay : Int) = t.seconds % 86400 := Int.toNat_of_nonneg (by omega)
  have ofDays : t.secondOfDay = u.secondOfDay := by omega
  have nanoseconds : t.nanoseconds = u.nanoseconds := by
    unfold writtenNanoseconds at fractions
    split at fractions <;> split at fractions <;> omega
  have same : t.seconds = u.seconds := by
    have now := @ofDay t
    rw [ofDays, ofDay] at now
    omega
  cases t
  cases u
  rw [Instant.mk.injEq]
  exact ⟨same, nanoseconds⟩

/-- The same for instants with the short sign of UTC. -/
theorem text_injective {t u : Instant} (regular : t.IsRegular) (regular' : u.IsRegular)
    (same : text t = text u) : t = u :=
  chars_injective regular regular' (List.append_cancel_right (String.ofList_injective same))

end Rfc3339

end BusRelay
