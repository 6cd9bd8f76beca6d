import BusRelay.Text.Utf8
/-!
# Percent-encoding

An octet is written as itself or as `%` and two hexadecimal digits. Which octets stand for themselves
is a parameter; `%` must not be among them if the text is to be read back.
-/

namespace BusRelay.Percent

open Utf8 (Bytes)

/-- An uppercase hexadecimal digit. -/
def hexDigit (n : Nat) : Char := if n < 10 then Char.ofNat (48 + n) else Char.ofNat (55 + n)

/-- `%` and the two digits of an octet. -/
def escape (b : UInt8) : List Char := ['%', hexDigit (b.toNat / 16), hexDigit (b.toNat % 16)]

/-- Octets as text. -/
def encodeBytes (keep : UInt8 → Bool) (bs : Bytes) : List Char :=
  bs.flatMap fun b => if keep b then [Char.ofNat b.toNat] else escape b

/-- The octets of a text as text. -/
def encode (keep : UInt8 → Bool) (s : String) : String :=
  String.ofList (encodeBytes keep (Utf8.bytes s))

/-- The value of a hexadecimal digit, given as its octet. -/
def hexValue? (b : UInt8) : Option Nat :=
  let n := b.toNat
  if 48 ≤ n ∧ n ≤ 57 then some (n - 48)
  else if 65 ≤ n ∧ n ≤ 70 then some (n - 55)
  else if 97 ≤ n ∧ n ≤ 102 then some (n - 87)
  else none

/-- The octets that a text writes; a `%` without two digits stands for itself. -/
def decode : Bytes → Bytes
  | [] => []
  | [a] => [a]
  | [a, b] => [a, b]
  | a :: b :: c :: rest =>
    if a = 37 then
      match hexValue? b, hexValue? c with
      | some high, some low => (high * 16 + low).toUInt8 :: decode rest
      | _, _ => a :: decode (b :: c :: rest)
    else a :: decode (b :: c :: rest)

end BusRelay.Percent
