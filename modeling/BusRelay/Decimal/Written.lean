import BusRelay.Decimal.Shortest
/-!
# Written numbers

Two ways to write a binary number by its shortest decimal: `json`, positional between 10^-5 and
10^16 and with a power of ten beyond, and `plain`, always positional and without a needless point.
-/

namespace BusRelay.WrittenNumber

def digits (n : Nat) : List Char := Nat.toDigits 10 n

def zeros (n : Nat) : List Char := List.replicate n '0'

/-- A power of ten, always with its sign. -/
def powerOfTen (e : Int) : List Char :=
  if e < 0 then ['e', '-'] ++ digits e.natAbs else ['e', '+'] ++ digits e.natAbs

/-- Digits with the point after the first `place` of them. -/
def positional (ds : List Char) (place : Int) (mark : List Char) : List Char :=
  if place ≤ 0 then ['0', '.'] ++ zeros place.natAbs ++ ds
  else if (ds.length : Int) ≤ place then ds ++ zeros (place.toNat - ds.length) ++ mark
  else ds.take place.toNat ++ ['.'] ++ ds.drop place.toNat

/-- Digits with the point after the first one, and a power of ten. -/
def scientific (ds : List Char) (place : Int) : List Char :=
  match ds with
  | [d] => d :: powerOfTen (place - 1)
  | d :: rest => d :: '.' :: rest ++ powerOfTen (place - 1)
  | [] => []

def sign (x : Binary64) : List Char := if x.negative then ['-'] else []

/-- Positional where the point falls within 5 zeros before or 16 digits after the first digit, and
then always with a digit after the point. -/
def json (x : Binary64) : String :=
  let d := Shortest.ofBinary x
  let ds := digits d.digits
  let place := (ds.length : Int) + d.exponent
  String.ofList (sign x ++
    if x.isZero then ['0', '.', '0']
    else if -5 < place ∧ place ≤ 16 then positional ds place ['.', '0']
    else scientific ds place)

/-- Positional at any size, with a point only before a fraction. -/
def plain (x : Binary64) : String :=
  let d := Shortest.ofBinary x
  let ds := digits d.digits
  String.ofList (sign x ++
    if x.isZero then ['0'] else positional ds ((ds.length : Int) + d.exponent) [])

end BusRelay.WrittenNumber
