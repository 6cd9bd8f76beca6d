import BusRelay.Decimal.Written
/-!
# Floating-point numbers as settings write them

A number with its fraction and power of ten, infinity, or no number at all. A text is read to the
nearest binary number, and one beyond the greatest is read as infinity.
-/

namespace BusRelay

/-- A floating-point number of 64 bits. -/
inductive Floating where
  | finite (x : Binary64)
  | infinite (negative : Bool)
  | nan
  deriving DecidableEq, Repr

namespace Floating

/-- The number `digits · 10 ^ exponent`, or infinity. -/
def ofDecimal (negative : Bool) (digits : List Char) (exponent : Int) : Floating :=
  match Binary64.ofDecimal negative (Nat.ofDigitChars 10 digits 0) exponent with
  | some x => finite x
  | none => infinite negative

/-- A sign, if there is one, and the rest. -/
def readSign : List Char → Bool × List Char
  | '-' :: rest => (true, rest)
  | '+' :: rest => (false, rest)
  | s => (false, s)

/-- A whole number with a sign or without one. -/
def readInteger? (s : List Char) : Option Int :=
  let (negative, digits) := readSign s
  if digits ≠ [] ∧ digits.all Char.isDigit then
    let n : Int := Nat.ofDigitChars 10 digits 0
    some (if negative then -n else n)
  else none

/-- The power of ten behind the digits; without a mark it is none. -/
def readExponent? : List Char → Option Int
  | [] => some 0
  | c :: rest => if c = 'e' ∨ c = 'E' then readInteger? rest else none

/-- Digits with a point among them or at an end, and a power of ten. -/
def readDigits? (negative : Bool) (s : List Char) : Option Floating :=
  let whole := s.takeWhile Char.isDigit
  let rest := s.dropWhile Char.isDigit
  let (part, rest) := match rest with
    | '.' :: rest => (rest.takeWhile Char.isDigit, rest.dropWhile Char.isDigit)
    | rest => ([], rest)
  if whole ++ part = [] then none
  else (readExponent? rest).map fun e => ofDecimal negative (whole ++ part) (e - part.length)

/-- The number that a text writes. -/
def read? (s : List Char) : Option Floating :=
  let (negative, rest) := readSign s
  let name := String.ofList (rest.map Char.toLower)
  if name = "inf" ∨ name = "infinity" then some (infinite negative)
  else if name = "nan" then some nan
  else readDigits? negative rest

/-- The number as text, without a power of ten. -/
def text : Floating → String
  | finite x => WrittenNumber.plain x
  | infinite false => "inf"
  | infinite true => "-inf"
  | nan => "NaN"

def isZero : Floating → Bool
  | finite x => x.isZero
  | _ => false

/-- The whole number from zero to `limit` that is nearest, a half away from zero. -/
def clamped (limit : Nat) : Floating → Nat
  | finite x => min limit x.round.toNat
  | infinite false => limit
  | infinite true | nan => 0

end Floating

end BusRelay
