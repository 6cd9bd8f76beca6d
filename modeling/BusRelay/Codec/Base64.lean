import BusRelay.Text.Utf8
/-!
# Base64 with padding

Three octets as four characters of the standard alphabet, the last group filled up with `=`. Reading
refuses everything that writing does not produce and says what is wrong with it.
-/

namespace BusRelay.Base64

open Utf8 (Bytes)

/-- The character of a value below 64. -/
def symbol (n : Nat) : Char :=
  if n < 26 then Char.ofNat (65 + n)
  else if n < 52 then Char.ofNat (97 + (n - 26))
  else if n < 62 then Char.ofNat (48 + (n - 52))
  else if n = 62 then '+' else '/'

/-- The value of a character, given as its octet. -/
def value? (b : UInt8) : Option Nat :=
  let n := b.toNat
  if 65 ≤ n ∧ n ≤ 90 then some (n - 65)
  else if 97 ≤ n ∧ n ≤ 122 then some (n - 97 + 26)
  else if 48 ≤ n ∧ n ≤ 57 then some (n - 48 + 52)
  else if n = 43 then some 62
  else if n = 47 then some 63
  else none

/-- The octet of the padding character. -/
def pad : UInt8 := 61

/-- The characters of an octet sequence. -/
def encodeChars : Bytes → List Char
  | [] => []
  | [a] =>
    let n := a.toNat * 16
    [symbol (n / 64), symbol (n % 64), '=', '=']
  | [a, b] =>
    let n := (a.toNat * 256 + b.toNat) * 4
    [symbol (n / 4096), symbol (n / 64 % 64), symbol (n % 64), '=']
  | a :: b :: c :: rest =>
    let n := (a.toNat * 256 + b.toNat) * 256 + c.toNat
    symbol (n / 262144) :: symbol (n / 4096 % 64) :: symbol (n / 64 % 64) :: symbol (n % 64) ::
      encodeChars rest

/-- The text of an octet sequence. -/
def encode (bs : Bytes) : String := String.ofList (encodeChars bs)

/-- Why a text is refused. -/
inductive Fault where
  | symbol (offset : Nat) (byte : UInt8)
  | length (count : Nat)
  | lastSymbol (offset : Nat) (byte : UInt8)
  | padding
  deriving DecidableEq, Repr

def Fault.message : Fault → String
  | symbol offset byte => s!"Invalid symbol {byte.toNat}, offset {offset}."
  | length count => s!"Invalid input length: {count}"
  | lastSymbol offset byte => s!"Invalid last symbol {byte.toNat}, offset {offset}."
  | padding => "Invalid padding"

/-- The octets of a number of 24 bits. -/
def threeOctets (n : Nat) : Bytes :=
  [(n / 65536).toUInt8, (n / 256 % 256).toUInt8, (n % 256).toUInt8]

/-- A group before the last one: four characters of the alphabet. -/
def decodeGroup (offset : Nat) (a b c d : UInt8) : Except Fault Bytes :=
  match value? a, value? b, value? c, value? d with
  | none, _, _, _ => .error (.symbol offset a)
  | _, none, _, _ => .error (.symbol (offset + 1) b)
  | _, _, none, _ => .error (.symbol (offset + 2) c)
  | _, _, _, none => .error (.symbol (offset + 3) d)
  | some a, some b, some c, some d => .ok (threeOctets (((a * 64 + b) * 64 + c) * 64 + d))

/-- What was read of the last group. -/
structure Tail where
  /-- The values of its characters, last first. -/
  values : List Nat := []
  /-- The offset of the first padding character in the group. -/
  firstPad : Option Nat := none
  pads : Nat := 0
  lastByte : UInt8 := 0

/-- Reads the characters of the last group, which starts at `offset`. -/
def readTail (offset : Nat) : (index : Nat) → Tail → Bytes → Except Fault Tail
  | _, tail, [] => .ok tail
  | index, tail, b :: rest =>
    if b = pad then
      if index < 2 then .error (.symbol (offset + index) b)
      else readTail offset (index + 1)
        { tail with firstPad := tail.firstPad <|> some index, pads := tail.pads + 1 } rest
    else match tail.firstPad, value? b with
      | some first, _ => .error (.symbol (offset + first) pad)
      | none, none => .error (.symbol (offset + index) b)
      | none, some v =>
        readTail offset (index + 1) { tail with values := v :: tail.values, lastByte := b } rest

/-- The last group, of at most four characters. -/
def decodeTail (offset : Nat) (group : Bytes) : Except Fault Bytes := do
  let tail ← readTail offset 0 {} group
  let count := tail.values.length
  if group ≠ [] ∧ count < 2 then throw (.length (offset + count))
  if (tail.pads + count) % 4 ≠ 0 then throw .padding
  let n := tail.values.foldr (fun v n => n * 64 + v) 0
  match count with
  | 2 => if n % 16 ≠ 0 then throw (.lastSymbol (offset + 1) tail.lastByte)
         return [(n / 16).toUInt8]
  | 3 => if n % 4 ≠ 0 then throw (.lastSymbol (offset + 2) tail.lastByte)
         return [(n / 1024).toUInt8, (n / 4 % 256).toUInt8]
  | 4 => return threeOctets n
  | _ => return []

/-- Reads groups of four; the last one may hold padding. -/
def decodeFrom (offset : Nat) : Bytes → Except Fault Bytes
  | a :: b :: c :: d :: e :: rest => do
    let group ← decodeGroup offset a b c d
    return group ++ (← decodeFrom (offset + 4) (e :: rest))
  | group => decodeTail offset group

/-- The octets that a text writes. A stray character at the end is reported before anything else. -/
def decode (text : Bytes) : Except Fault Bytes :=
  match text.getLast? with
  | some last =>
    if text.length % 4 = 1 ∧ last ≠ pad ∧ value? last = none then
      .error (.symbol (text.length - 1) last)
    else decodeFrom 0 text
  | none => .ok []

end BusRelay.Base64
