import BusRelay.Text.Blank
import BusRelay.Time.Instant
/-!
# Reading dates

The fields that written dates are made of, and the instant that they name. A field that is not there
is told apart from one that is cut short, and both from a value out of range.
-/

namespace BusRelay

/-- Why a text is no date. -/
inductive TimeFault where
  | outOfRange
  | impossible
  | invalid
  | tooShort
  | tooLong
  deriving DecidableEq, Repr

def TimeFault.message : TimeFault → String
  | outOfRange => "input is out of range"
  | impossible => "no possible date and time matching input"
  | invalid => "input contains invalid characters"
  | tooShort => "premature end of input"
  | tooLong => "trailing input"

namespace Scan

/-- The greatest number that a field may write. -/
def maxNumber : Nat := Nat.pow 2 63 - 1

/-- Reads digits, at most `left` of them if that is given. -/
def digits : (left : Option Nat) → (value : Nat) → List Char → Except TimeFault (Nat × List Char)
  | some 0, value, s => .ok (value, s)
  | _, value, [] => .ok (value, [])
  | left, value, c :: rest =>
    if c.isDigit then
      let value := 10 * value + (c.toNat - 48)
      if maxNumber < value then .error .outOfRange else digits (left.map (· - 1)) value rest
    else .ok (value, c :: rest)

/-- A number of at least `least` and at most `most` digits. -/
def number (least : Nat) (most : Option Nat) (s : List Char) : Except TimeFault (Nat × List Char) :=
  if s.length < least then .error .tooShort
  else if (s.takeWhile (·.isDigit)).length < least then .error .invalid
  else digits most 0 s

/-- A number with a sign and any count of digits, or without one and at most `most` of them. -/
def signedNumber (most : Nat) (s : List Char) : Except TimeFault (Int × List Char) :=
  match Blank.trimStart s with
  | '-' :: rest => (number 1 none rest).map fun (n, s) => (-(n : Int), s)
  | '+' :: rest => (number 1 none rest).map fun (n, s) => ((n : Int), s)
  | s => (number 1 (some most) s).map fun (n, s) => ((n : Int), s)

/-- The number, if it is not out of range. -/
def within (low high : Int) (n : Int) : Except TimeFault Int :=
  if low ≤ n ∧ n ≤ high then .ok n else .error .outOfRange

/-- One character. -/
def literal (expected : Char) : List Char → Except TimeFault (List Char)
  | [] => .error .tooShort
  | c :: rest => if c = expected then .ok rest else .error .invalid

/-- What the sign and the digits of an offset may look like. -/
structure ZoneForm where
  /-- The letter Z is an offset. -/
  zulu : Bool
  /-- Colons and blanks may stand between hours and minutes. -/
  separators : Bool
  /-- The minus sign of typography is a sign. -/
  minusSign : Bool

/-- Two digits. -/
def twoDigits : List Char → Except TimeFault (Char × Char × List Char)
  | a :: b :: rest => .ok (a, b, rest)
  | [a] => .error (if a.toNat < 0x80 then .tooShort else .invalid)
  | [] => .error .tooShort

/-- The hours of an offset, which may be more than a day has. -/
def zoneHours (s : List Char) : Except TimeFault (Nat × List Char) := do
  let (a, b, rest) ← twoDigits s
  if a.isDigit && b.isDigit then return ((a.toNat - 48) * 10 + (b.toNat - 48), rest)
  throw .invalid

/-- The minutes of an offset. -/
def zoneMinutes (s : List Char) : Except TimeFault (Nat × List Char) := do
  let (a, b, rest) ← twoDigits s
  if a.isDigit && b.isDigit then
    if a.toNat ≤ '5'.toNat then return ((a.toNat - 48) * 10 + (b.toNat - 48), rest)
    throw .outOfRange
  throw .invalid

/-- An offset from UTC, in seconds. -/
def zoneOffset (form : ZoneForm) (s : List Char) : Except TimeFault (Int × List Char) := do
  match s with
  | [] => throw .tooShort
  | c :: rest =>
    if form.zulu && (c = 'Z' || c = 'z') then return (0, rest)
    let negative := c = '-' || c = '\u2212'
    if !(c = '+' || c = '-' || (form.minusSign && c = '\u2212')) then throw .invalid
    let (hours, s) ← zoneHours rest
    let s := if form.separators then s.dropWhile fun c => c = ':' || Blank.isBlank c else s
    let (minutes, s) ← zoneMinutes s
    let seconds : Int := (hours * 3600 + minutes * 60 : Nat)
    return (if negative then -seconds else seconds, s)

/-- The instant of a date, a time of day and an offset. A second of 60 is a leap second. The weekday,
if there is one, has to be that of the date. -/
def resolve (date : Date) (weekday : Option Nat) (hour minute second nanoseconds : Nat)
    (offset : Int) : Except TimeFault Instant := do
  if !date.isValid || date.year < Date.firstYear || Date.lastYear < date.year then throw .outOfRange
  if weekday.any (· ≠ date.weekday) then throw .impossible
  if offset.natAbs ≥ 86400 then throw .outOfRange
  let (second, nanoseconds) :=
    if second = 60 then (59, nanoseconds + 1000000000) else (second, nanoseconds)
  let seconds : Int := date.toDays * 86400 + (hour * 3600 + minute * 60 + second : Nat) - offset
  if seconds < Instant.firstSecond || Instant.lastSecond < seconds then throw .impossible
  return ⟨seconds, nanoseconds⟩

end Scan

end BusRelay
