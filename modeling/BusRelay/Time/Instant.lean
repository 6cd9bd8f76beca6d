/-!
# Instants

A point in time as seconds since 1970 and nanoseconds, with leap seconds: the last second of a minute
may have more than 10^9 nanoseconds. Dates are those of the Gregorian calendar in both directions.
`daysOfDate` and `dateOfDays` count days from the same day.
-/

namespace BusRelay

/-- A point in time. -/
structure Instant where
  seconds : Int
  nanoseconds : Nat
  deriving DecidableEq, Repr

/-- A day of the Gregorian calendar. -/
structure Date where
  year : Int
  month : Nat
  day : Nat
  deriving DecidableEq, Repr

namespace Date

def isLeapYear (year : Int) : Bool := year % 4 = 0 && (year % 100 ≠ 0 || year % 400 = 0)

/-- The number of days of a month. -/
def daysInMonth (year : Int) (month : Nat) : Nat :=
  if month = 2 then if isLeapYear year then 29 else 28
  else if month = 4 ∨ month = 6 ∨ month = 9 ∨ month = 11 then 30 else 31

/-- Whether month and day exist. -/
def isValid (d : Date) : Bool :=
  1 ≤ d.month && d.month ≤ 12 && 1 ≤ d.day && d.day ≤ daysInMonth d.year d.month

/-- Days from 1970-01-01. Years start in March here, so that the leap day is the last one. -/
def toDays (d : Date) : Int :=
  let y : Int := if d.month ≤ 2 then d.year - 1 else d.year
  let era : Int := y / 400
  let yearOfEra : Int := y - era * 400
  let monthFromMarch : Int := if 2 < d.month then (d.month : Int) - 3 else d.month + 9
  let dayOfYear : Int := (153 * monthFromMarch + 2) / 5 + d.day - 1
  let dayOfEra : Int := yearOfEra * 365 + yearOfEra / 4 - yearOfEra / 100 + dayOfYear
  era * 146097 + dayOfEra - 719468

/-- The date of a count of days from 1970-01-01. -/
def ofDays (days : Int) : Date :=
  let z : Int := days + 719468
  let era : Int := z / 146097
  let dayOfEra : Int := z - era * 146097
  let yearOfEra : Int := (dayOfEra - dayOfEra / 1460 + dayOfEra / 36524 - dayOfEra / 146096) / 365
  let dayOfYear : Int := dayOfEra - (365 * yearOfEra + yearOfEra / 4 - yearOfEra / 100)
  let monthFromMarch : Int := (5 * dayOfYear + 2) / 153
  let day := (dayOfYear - (153 * monthFromMarch + 2) / 5 + 1).toNat
  let month := (if monthFromMarch < 10 then monthFromMarch + 3 else monthFromMarch - 9).toNat
  let year : Int := yearOfEra + era * 400 + if month ≤ 2 then 1 else 0
  ⟨year, month, day⟩

/-- The day of the week, from Monday, 0, on. -/
def weekday (d : Date) : Nat := ((d.toDays + 3) % 7).toNat

/-- The years that dates may have. -/
def firstYear : Int := -262143

def lastYear : Int := 262142

end Date

namespace Instant

/-- The start of 1970. -/
def epoch : Instant := ⟨0, 0⟩

/-- The first and the last second that instants may have. -/
def firstSecond : Int := (Date.mk Date.firstYear 1 1).toDays * 86400

def lastSecond : Int := ((Date.mk Date.lastYear 12 31).toDays + 1) * 86400 - 1

def date (t : Instant) : Date := Date.ofDays (t.seconds / 86400)

/-- The second of the day. -/
def secondOfDay (t : Instant) : Nat := (t.seconds % 86400).toNat

end Instant

end BusRelay
