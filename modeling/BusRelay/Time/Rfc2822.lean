import BusRelay.Time.Scan
/-!
# RFC 2822

The dates of mail and HTTP: an optional weekday, day, name of the month, year, time of day and an
offset in digits or by name, with comments in parentheses at the end. Years of two and three digits
are those of the recent past.
-/

namespace BusRelay.Rfc2822

open Scan

/-- At least one blank. -/
def blanks (s : List Char) : Except TimeFault (List Char) :=
  let after := Blank.trimStart s
  if after.length < s.length then .ok after
  else if s = [] then .error .tooShort else .error .invalid

/-- The position in a list of a name of three letters at the start of the text. -/
def name3 (names : List String) (s : List Char) : Except TimeFault (Nat × List Char) :=
  if s.length < 3 then .error .tooShort
  else match names.findIdx? (fun n => n.toList = (s.take 3).map Char.toLower) with
    | some i => .ok (i, s.drop 3)
    | none => .error .invalid

def weekdays : List String := ["mon", "tue", "wed", "thu", "fri", "sat", "sun"]

def months : List String :=
  ["jan", "feb", "mar", "apr", "may", "jun", "jul", "aug", "sep", "oct", "nov", "dec"]

/-- The weekday and its comma, if the text starts with one. -/
def readWeekday (s : List Char) : Except TimeFault (Option Nat × List Char) :=
  match name3 weekdays s with
  | .ok (i, ',' :: rest) => .ok (some i, rest)
  | .ok _ => .error .invalid
  | .error _ => .ok (none, s)

/-- The year that two or three digits stand for. -/
def fullYear (count year : Nat) : Nat :=
  if count = 2 then if year ≤ 49 then year + 2000 else year + 1900
  else if count = 3 then year + 1900 else year

/-- Named offsets in hours. -/
def zoneNames : List (String × Int) :=
  [("gmt", 0), ("ut", 0), ("z", 0), ("edt", -4), ("est", -5), ("cdt", -5), ("cst", -6), ("mdt", -6),
    ("mst", -7), ("pdt", -7), ("pst", -8)]

/-- An offset by name or in digits. A single letter but J stands for UTC. -/
def zone (s : List Char) : Except TimeFault (Int × List Char) :=
  let letters := (s.takeWhile (·.isAlpha)).map Char.toLower
  let rest := s.dropWhile (·.isAlpha)
  if letters = [] then zoneOffset { zulu := false, separators := false, minusSign := false } s
  else match zoneNames.find? (fun (n, _) => n.toList = letters) with
    | some (_, hours) => .ok (hours * 3600, rest)
    | none => if letters.length = 1 ∧ letters ≠ ['j'] then .ok (0, rest) else .error .invalid

/-- What follows a comment; `depth` parentheses are open. -/
def commentEnd : (depth : Nat) → List Char → Option (List Char)
  | _, [] => none
  | _, ['\\'] => none
  | depth, '\\' :: _ :: rest => commentEnd depth rest
  | depth, '(' :: rest => commentEnd (depth + 1) rest
  | depth, ')' :: rest => if depth ≤ 1 then some rest else commentEnd (depth - 1) rest
  | depth, _ :: rest => commentEnd depth rest

/-- Past comments. -/
def skipComments : (fuel : Nat) → List Char → List Char
  | 0, s => s
  | fuel + 1, s => match Blank.trimStart s with
    | '(' :: rest => match commentEnd 1 rest with
      | some after => skipComments fuel after
      | none => s
    | _ => s

/-- The seconds after a colon, if there is one. -/
def readSecond (s : List Char) : Except TimeFault (Nat × List Char) :=
  match Blank.trimStart s with
  | ':' :: rest => do
    let (second, s) ← number 2 (some 2) rest
    discard (within 0 60 second)
    return (second, s)
  | _ => .ok (0, s)

/-- The instant that a text writes. -/
def read (s : String) : Except TimeFault Instant := do
  let (weekday, s) ← readWeekday (Blank.trimStart s.toList)
  let (day, s) ← number 1 (some 2) (Blank.trimStart s)
  let day ← within 1 31 day
  let s ← blanks s
  let (month, s) ← name3 months s
  let s ← blanks s
  let (year, after) ← number 2 none s
  let year ← within 0 2147483647 (fullYear (s.length - after.length) year)
  let s ← blanks after
  let (hour, s) ← number 2 (some 2) s
  let hour ← within 0 23 hour
  let s ← literal ':' (Blank.trimStart s)
  let (minute, s) ← number 2 (some 2) (Blank.trimStart s)
  let minute ← within 0 59 minute
  let (second, s) ← readSecond s
  let s ← blanks s
  let (offset, s) ← zone s
  if skipComments s.length s ≠ [] then throw .tooLong
  resolve ⟨year, month + 1, day.toNat⟩ weekday hour.toNat minute.toNat second 0 offset

end BusRelay.Rfc2822
