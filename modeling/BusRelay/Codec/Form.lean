import BusRelay.Codec.Percent
/-!
# Form encoding

Text for queries and form bodies: letters, digits and `*-._` stand for themselves, a blank is a plus
sign and every other octet is percent-encoded.
-/

namespace BusRelay.Form

open Utf8 (Bytes)

/-- Whether an octet stands for itself. -/
def isPlain (b : UInt8) : Bool :=
  let n := b.toNat
  (48 ≤ n && n ≤ 57) || (65 ≤ n && n ≤ 90) || (97 ≤ n && n ≤ 122) ||
    n == 42 || n == 45 || n == 46 || n == 95

/-- Octets as text. -/
def encodeBytes (bs : Bytes) : List Char :=
  bs.flatMap fun b =>
    if isPlain b then [Char.ofNat b.toNat] else if b = 32 then ['+'] else Percent.escape b

/-- A text as form text. -/
def encode (s : String) : String := String.ofList (encodeBytes (Utf8.bytes s))

/-- The octets that a form text writes. -/
def decode (text : Bytes) : Bytes :=
  Percent.decode (text.map fun b => if b = 43 then 32 else b)

/-- A list of names and values. -/
def pairs (fields : List (String × String)) : String :=
  "&".intercalate (fields.map fun (name, value) => encode name ++ "=" ++ encode value)

end BusRelay.Form
