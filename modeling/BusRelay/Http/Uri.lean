import BusRelay.Text.Utf8
/-!
# What requests can be sent to

A URI is a scheme and an authority with an optional path, an authority alone, a path alone, or an
asterisk. Spans are exported to a collector whose address is one, and a redirect is followed only to a
URL that is one. The octets of a host are more restricted than those of a URL.
-/

namespace BusRelay

open Utf8 (Bytes)

/-- Why a text is no URI. -/
inductive UriFault where
  | empty
  | tooLong
  | character
  | authority
  | form
  | longScheme
  deriving DecidableEq, Repr

def UriFault.message : UriFault → String
  | empty => "empty string"
  | tooLong => "uri too long"
  | character => "invalid uri character"
  | authority => "invalid authority"
  | form => "invalid format"
  | longScheme => "scheme too long"

namespace Uri

/-- The octet of an ASCII character. -/
def octet (c : Char) : UInt8 := c.toNat.toUInt8

def isAlphanum (b : UInt8) : Bool := b < 128 && (Char.ofNat b.toNat).isAlphanum

/-- An octet of a scheme. -/
def isSchemeOctet (b : UInt8) : Bool := isAlphanum b || "+-.".toList.any (octet · = b)

/-- An octet that may stand in a URI as it is. -/
def isPlain (b : UInt8) : Bool :=
  isAlphanum b || "!#$&'()*+,-./:;=?@[]_~".toList.any (octet · = b)

/-- An octet that may stand in a path. -/
def isPathOctet (b : UInt8) : Bool :=
  0x21 ≤ b && "#<>?\x60".toList.all (octet · ≠ b)

/-- An octet that may stand in a query. -/
def isQueryOctet (b : UInt8) : Bool := 0x21 ≤ b && "\"#<>".toList.all (octet · ≠ b)

/-- The longest URI. -/
def maxLength : Nat := 65534

/-- The longest scheme. -/
def maxScheme : Nat := 64

/-- What a scheme and the two slashes behind it are followed by, if there is a scheme. -/
def afterScheme? (s : Bytes) : Except UriFault (Option Bytes) :=
  match s.dropWhile isSchemeOctet with
  | 58 :: 47 :: 47 :: rest =>
    if maxScheme < (s.takeWhile isSchemeOctet).length then .error .longScheme else .ok (some rest)
  | _ => .ok none

/-- What was seen of an authority. -/
structure Seen where
  colons : Nat := 0
  opened : Bool := false
  closed : Bool := false
  /-- A percent sign behind the user. -/
  percent : Bool := false
  /-- The last octet was the sign between user and host. -/
  endsUser : Bool := false

/-- The most colons that are looked at. -/
def maxColons : Nat := 8

/-- Looks at the octets of an authority. -/
def scanAuthority : Seen → Bytes → Except UriFault Seen
  | seen, [] => .ok seen
  | seen, b :: rest =>
    if b = octet ':' then
      if seen.colons ≥ maxColons then .ok seen
      else scanAuthority { seen with colons := seen.colons + 1, endsUser := false } rest
    else if b = octet '[' then
      if seen.percent || seen.opened then .error .authority
      else scanAuthority { seen with opened := true, endsUser := false } rest
    else if b = octet ']' then
      if !seen.opened || seen.closed then .error .authority
      else scanAuthority { seen with closed := true, colons := 0, percent := false, endsUser := false }
        rest
    else if b = octet '@' then
      scanAuthority { seen with colons := 0, percent := false, endsUser := true } rest
    else if b = octet '%' then scanAuthority { seen with percent := true, endsUser := false } rest
    else if isPlain b then scanAuthority { seen with endsUser := false } rest
    else .error .character

/-- Whether an octet ends an authority. -/
def endsAuthority (b : UInt8) : Bool := b = octet '/' || b = octet '?' || b = octet '#'

/-- Checks an authority: brackets in pairs, at most one port, and a host behind a user. -/
def checkAuthority (s : Bytes) : Except UriFault Unit := do
  let seen ← scanAuthority {} s
  if seen.opened != seen.closed || 1 < seen.colons || seen.endsUser || seen.percent then
    throw .authority

/-- Checks a path with its query. A fragment is not looked at. -/
def checkPath (s : Bytes) : Except UriFault Unit :=
  match s.dropWhile isPathOctet with
  | [] | 35 :: _ => .ok ()
  | 63 :: rest => match rest.dropWhile isQueryOctet with
    | [] | 35 :: _ => .ok ()
    | _ => .error .character
  | _ => .error .character

/-- Checks a text. -/
def check (text : String) : Except UriFault Unit := do
  let s := Utf8.bytes text
  if maxLength < s.length then throw .tooLong
  match s with
  | [] => throw .empty
  | 47 :: _ => checkPath s
  | [42] => return
  | _ => match ← afterScheme? s with
    | some rest =>
      checkAuthority (rest.takeWhile (!endsAuthority ·))
      if rest.takeWhile (!endsAuthority ·) = [] then throw .form
      checkPath (rest.dropWhile (!endsAuthority ·))
    | none =>
      checkAuthority (s.takeWhile (!endsAuthority ·))
      if s.any endsAuthority then throw .form

end Uri

end BusRelay
