/-!
# Sets of characters as ranges

A set of code points is written as text: hexadecimal ranges `low-high`, or single code points, with
blanks or line feeds between them. `read` turns the text into pairs and `contains` looks a character up.
-/

namespace BusRelay.CharRange

/-- The value of a hexadecimal digit. -/
def hexDigit? (c : Char) : Option Nat :=
  if '0' ≤ c ∧ c ≤ '9' then some (c.toNat - '0'.toNat)
  else if 'a' ≤ c ∧ c ≤ 'f' then some (c.toNat - 'a'.toNat + 10)
  else if 'A' ≤ c ∧ c ≤ 'F' then some (c.toNat - 'A'.toNat + 10)
  else none

/-- The number that hexadecimal digits write; other characters are passed over. -/
def readHex (s : List Char) : Nat :=
  s.foldl (fun n c => match hexDigit? c with
    | some d => 16 * n + d
    | none => n) 0

/-- The pieces of a text between blanks and line feeds. -/
def words (s : List Char) : List (List Char) :=
  (s.splitOnP fun c => c = ' ' || c = '\n').filter (· ≠ [])

/-- One range, `low-high` or a single code point. -/
def readOne (s : List Char) : Nat × Nat :=
  match s.splitOn '-' with
  | [low, high] => (readHex low, readHex high)
  | _ => (readHex s, readHex s)

/-- The ranges that a text lists. -/
def read (s : String) : List (Nat × Nat) := (words s.toList).map readOne

/-- Whether a character lies in one of the ranges. -/
def contains (ranges : List (Nat × Nat)) (c : Char) : Bool :=
  ranges.any fun (low, high) => low ≤ c.toNat && c.toNat ≤ high

end BusRelay.CharRange
