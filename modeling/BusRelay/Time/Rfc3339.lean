import BusRelay.Time.Instant
import BusRelay.Time.Scan
/-!
# RFC 3339

Dates with a time of day and an offset. They are written in UTC with as many digits of the second as
they need, in threes. Reading is more liberal: blanks around the fields, fields of one digit, a blank
for the `T`, any number of digits of the second, the name `UTC`, and years with a sign.
-/

namespace BusRelay.Rfc3339

open Scan

/-- A number in at least `width` digits. -/
def padded (width n : Nat) : List Char :=
  let ds := Nat.toDigits 10 n
  List.replicate (width - ds.length) '0' ++ ds

/-- A year: four digits, or a sign and at least four digits. -/
def yearChars (year : Int) : List Char :=
  if 0 ≤ year ∧ year ≤ 9999 then padded 4 year.toNat
  else (if year < 0 then '-' else '+') :: padded 4 year.natAbs

/-- The fraction of a second in no, three, six or nine digits. -/
def fractionChars (nanoseconds : Nat) : List Char :=
  if nanoseconds = 0 then []
  else if nanoseconds % 1000000 = 0 then '.' :: padded 3 (nanoseconds / 1000000)
  else if nanoseconds % 1000 = 0 then '.' :: padded 6 (nanoseconds / 1000)
  else '.' :: padded 9 nanoseconds

/-- Date and time of day. -/
def chars (t : Instant) : List Char :=
  let d := t.date
  let s := t.secondOfDay
  let isLeap := 1000000000 ≤ t.nanoseconds
  let second := if isLeap then s % 60 + 1 else s % 60
  let nanoseconds := if isLeap then t.nanoseconds - 1000000000 else t.nanoseconds
  yearChars d.year ++ '-' :: padded 2 d.month ++ '-' :: padded 2 d.day ++ 'T' ::
    padded 2 (s / 3600) ++ ':' :: padded 2 (s / 60 % 60) ++ ':' :: padded 2 second ++
    fractionChars nanoseconds

/-- The instant with the short sign of UTC. -/
def text (t : Instant) : String := String.ofList (chars t ++ ['Z'])

/-- The instant with the offset of UTC in digits. -/
def textWithOffset (t : Instant) : String :=
  String.ofList (chars t ++ ['+', '0', '0', ':', '0', '0'])

/-- The letter or blank between date and time of day. -/
def separator : List Char → Except TimeFault (List Char)
  | [] => .error .tooShort
  | c :: rest => if c = 'T' ∨ c = 't' ∨ c = ' ' then .ok rest else .error .invalid

/-- Whether a text starts with the name of UTC, in any letter case. -/
def startsWithUtc : List Char → Bool
  | a :: b :: c :: _ => a.toLower = 'u' && b.toLower = 't' && c.toLower = 'c'
  | _ => false

/-- The fraction of a second, if there is one. -/
def readFraction (s : List Char) : Except TimeFault (Nat × List Char) :=
  match s with
  | '.' :: rest => do
    let (value, after) ← number 1 (some 9) rest
    let count := rest.length - after.length
    return (value * Nat.pow 10 (9 - count), after.dropWhile (·.isDigit))
  | _ => .ok (0, s)

/-- The instant that a text writes. -/
def read (s : String) : Except TimeFault Instant := do
  let (year, s) ← signedNumber 4 s.toList
  let year ← within (-2147483648) 2147483647 year
  let s ← literal '-' (Blank.trimStart s)
  let (month, s) ← number 1 (some 2) (Blank.trimStart s)
  let month ← within 1 12 month
  let s ← literal '-' (Blank.trimStart s)
  let (day, s) ← number 1 (some 2) (Blank.trimStart s)
  let day ← within 1 31 day
  let s ← separator s
  let (hour, s) ← number 1 (some 2) (Blank.trimStart s)
  let hour ← within 0 23 hour
  let s ← literal ':' (Blank.trimStart s)
  let (minute, s) ← number 1 (some 2) (Blank.trimStart s)
  let minute ← within 0 59 minute
  let s ← literal ':' (Blank.trimStart s)
  let (second, s) ← number 1 (some 2) (Blank.trimStart s)
  let second ← within 0 60 second
  let (nanoseconds, s) ← readFraction s
  let s := Blank.trimStart s
  let (offset, s) ← if startsWithUtc s then pure ((0 : Int), s.drop 3)
    else zoneOffset { zulu := true, separators := true, minusSign := true } s
  if Blank.trimStart s ≠ [] then throw .tooLong
  resolve ⟨year, month.toNat, day.toNat⟩ none hour.toNat minute.toNat second.toNat nanoseconds offset

end BusRelay.Rfc3339
