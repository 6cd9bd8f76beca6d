import BusRelay.Time.Instant
/-!
# Days and dates

Counting the days of the date of a count gives the count back (`Date.toDays_ofDays`), so that different
days have different dates.
-/

namespace BusRelay

namespace Date

/-! ## The year of a day within four hundred years -/

/-- The year of a day, both counted from the start of four hundred years. -/
def yearOfDay (day : Int) : Int := (day - day / 1460 + day / 36524 - day / 146096) / 365

section

variable {day : Int} (first : 0 ≤ day) (last : day < 146097)

include first last

/-- A year is at most the fourth after as many fours of years as have passed. -/
theorem yearOfDay_le : yearOfDay day ≤ 4 * (day / 1460) + 3 := by
  unfold yearOfDay
  omega

/-- A year is not before the centuries that have passed. -/
theorem le_yearOfDay : 100 * (day / 36524 - day / 146096) ≤ yearOfDay day := by
  unfold yearOfDay
  have centuries :
      day / 36524 = 0 ∨ day / 36524 = 1 ∨ day / 36524 = 2 ∨ day / 36524 = 3 ∨ day / 36524 = 4 := by
    omega
  rcases centuries with h | h | h | h | h <;> omega

theorem yearOfDay_bounds : 0 ≤ yearOfDay day ∧ yearOfDay day ≤ 399 := by
  unfold yearOfDay
  omega

/-- The day is one of its year. -/
theorem dayOfYear_bounds :
    0 ≤ day - (365 * yearOfDay day + yearOfDay day / 4 - yearOfDay day / 100) ∧
      day - (365 * yearOfDay day + yearOfDay day / 4 - yearOfDay day / 100) ≤ 366 := by
  have fours : yearOfDay day / 4 ≤ day / 1460 := by
    have := yearOfDay_le first last
    omega
  have hundreds : day / 36524 - day / 146096 ≤ yearOfDay day / 100 := by
    have := le_yearOfDay first last
    omega
  have days : 365 * yearOfDay day ≤ day - day / 1460 + day / 36524 - day / 146096 :=
    Int.mul_ediv_self_le (by decide)
  refine ⟨by omega, ?_⟩
  unfold yearOfDay
  omega

end

/-! ## Back to the day -/

/-- The month, from January, 1, on, that comes so many months after March. -/
def monthAfterMarch (months : Int) : Nat := (if months < 10 then months + 3 else months - 9).toNat

/-- The date of a day of a month of a year, years counted from March on and within four hundred years. -/
def ofParts (era year months day : Int) : Date :=
  ⟨year + era * 400 + if monthAfterMarch months ≤ 2 then 1 else 0, monthAfterMarch months, day.toNat⟩

theorem toDays_ofParts {era year months day : Int} (years : 0 ≤ year ∧ year ≤ 399)
    (spring : 0 ≤ months ∧ months ≤ 11) (positive : 1 ≤ day) :
    (ofParts era year months day).toDays =
      era * 146097 + (365 * year + year / 4 - year / 100 + ((153 * months + 2) / 5 + day - 1)) - 719468 := by
  have month : (monthAfterMarch months : Int) = if months < 10 then months + 3 else months - 9 :=
    Int.toNat_of_nonneg (by split <;> omega)
  simp only [toDays, ofParts, Int.toNat_of_nonneg (by omega : 0 ≤ day)]
  omega

/-- The parts of the date of a day. -/
theorem ofDays_eq (days : Int) : ∃ era year months day, ofDays days = ofParts era year months day ∧
    (0 ≤ year ∧ year ≤ 399) ∧ (0 ≤ months ∧ months ≤ 11) ∧ (1 ≤ day ∧ day ≤ 31) ∧
    days = era * 146097 + (365 * year + year / 4 - year / 100 + ((153 * months + 2) / 5 + day - 1)) - 719468 := by
  let era := (days + 719468) / 146097
  let dayOfEra := days + 719468 - era * 146097
  have first : 0 ≤ dayOfEra := by omega
  have last : dayOfEra < 146097 := by omega
  have bounds := dayOfYear_bounds first last
  let dayOfYear := dayOfEra - (365 * yearOfDay dayOfEra + yearOfDay dayOfEra / 4 - yearOfDay dayOfEra / 100)
  let months := (5 * dayOfYear + 2) / 153
  have doy : 0 ≤ dayOfYear ∧ dayOfYear ≤ 366 := bounds
  refine ⟨era, yearOfDay dayOfEra, months, dayOfYear - (153 * months + 2) / 5 + 1, rfl,
    yearOfDay_bounds first last, by omega, by omega, by omega⟩

/-- Month and day of a date are small. -/
theorem ofDays_bounds (days : Int) : (ofDays days).month ≤ 12 ∧ (ofDays days).day ≤ 31 := by
  obtain ⟨era, year, months, day, parts, -, spring, small, -⟩ := ofDays_eq days
  rw [parts]
  simp only [ofParts, monthAfterMarch]
  split <;> omega

theorem toDays_ofDays (days : Int) : (ofDays days).toDays = days := by
  obtain ⟨era, year, months, day, parts, years, spring, small, sum⟩ := ofDays_eq days
  rw [parts, toDays_ofParts years spring small.1, ← sum]

/-- Different days have different dates. -/
theorem ofDays_injective {a b : Int} (same : ofDays a = ofDays b) : a = b := by
  rw [← toDays_ofDays a, same, toDays_ofDays]

end Date

end BusRelay
