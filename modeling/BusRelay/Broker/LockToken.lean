import BusRelay.Text.Utf8
/-!
# Lock tokens

A token of 128 bits in hexadecimal digits: all in a row, or in groups of 8, 4, 4, 4 and 12 with hyphens
between them, then also in braces or as a name `urn:uuid:`. It is written in groups.
-/

namespace BusRelay

/-- A token of 32 hexadecimal digits. -/
structure LockToken where
  digits : List Char
  deriving DecidableEq, Repr

namespace LockToken

def isHexDigit (c : Char) : Bool :=
  c.isDigit || ('a' ≤ c && c ≤ 'f') || ('A' ≤ c && c ≤ 'F')

/-- The token of digits in a row. -/
def ofDigits? (s : List Char) : Option LockToken :=
  if s.length = 32 ∧ s.all isHexDigit then some ⟨s.map Char.toLower⟩ else none

/-- The token of digits in groups. -/
def ofGroups? (s : List Char) : Option LockToken :=
  let hyphens := [8, 13, 18, 23]
  if s.length = 36 ∧ hyphens.all fun i => s[i]? = some '-' then
    ofDigits? (s.zipIdx.filterMap fun (c, i) => if i ∈ hyphens then none else some c)
  else none

/-- The token that a text is. -/
def parse? (text : String) : Option LockToken :=
  let s := text.toList
  if s.length = 32 then ofDigits? s
  else if s.length = 36 then ofGroups? s
  else if s.length = 38 ∧ s.head? = some '{' ∧ s.getLast? = some '}' then
    ofGroups? ((s.drop 1).take 36)
  else if s.length = 45 ∧ s.take 9 = "urn:uuid:".toList then ofGroups? (s.drop 9)
  else none

/-- The token in groups. -/
def text (t : LockToken) : String :=
  let part (start count : Nat) := (t.digits.drop start).take count
  String.ofList <| part 0 8 ++ '-' :: part 8 4 ++ '-' :: part 12 4 ++ '-' :: part 16 4 ++
    '-' :: part 20 12

end LockToken

end BusRelay
