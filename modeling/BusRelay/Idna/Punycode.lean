/-!
# Punycode

Characters outside ASCII in a label written with letters and digits: the ASCII characters first, then
a hyphen, then the others in ascending order as distances in numbers of variable length (RFC 3492).
-/

namespace BusRelay.Punycode

/-- The threshold of the digit at place `k`. -/
def threshold (k bias : Nat) : Nat := if k ≤ bias then 1 else if bias + 26 ≤ k then 26 else k - bias

/-- Divides a distance until it is small, and counts the divisions in steps of 36. -/
def shrink : (fuel : Nat) → (delta k : Nat) → Nat
  | 0, _, k => k
  | fuel + 1, delta, k =>
    if 455 < delta then shrink fuel (delta / 35) (k + 36) else k + 36 * delta / (delta + 38)

/-- The bias after a distance was written. -/
def adapt (delta points : Nat) (first : Bool) : Nat :=
  let delta := if first then delta / 700 else delta / 2
  shrink 32 (delta + delta / points) 0

def digit (n : Nat) : Char := if n < 26 then Char.ofNat (97 + n) else Char.ofNat (22 + n)

def digitValue? (c : Char) : Option Nat :=
  if 'a' ≤ c ∧ c ≤ 'z' then some (c.toNat - 97)
  else if 'A' ≤ c ∧ c ≤ 'Z' then some (c.toNat - 65)
  else if '0' ≤ c ∧ c ≤ '9' then some (c.toNat - 22)
  else none

/-- The digits of a distance. -/
def distanceDigits : (fuel : Nat) → (q k bias : Nat) → List Char
  | 0, _, _, _ => []
  | fuel + 1, q, k, bias =>
    let t := threshold k bias
    if q < t then [digit q]
    else digit (t + (q - t) % (36 - t)) :: distanceDigits fuel ((q - t) / (36 - t)) (k + 36) bias

/-- Where the encoder stands. -/
structure Encoder where
  delta : Nat
  bias : Nat
  handled : Nat
  basic : Nat
  out : List Char

/-- Passes over one character while the code point `n` is written. -/
def Encoder.pass (n : Nat) (s : Encoder) (c : Char) : Encoder :=
  if c.toNat < n then { s with delta := s.delta + 1 }
  else if c.toNat = n then
    { s with
      out := s.out ++ distanceDigits 40 s.delta 36 s.bias
      bias := adapt s.delta (s.handled + 1) (s.handled = s.basic)
      delta := 0
      handled := s.handled + 1 }
  else s

/-- Writes the characters from the code point `n` on. -/
def encodeFrom : (fuel : Nat) → (label : List Char) → (n : Nat) → Encoder → List Char
  | 0, _, _, s => s.out
  | fuel + 1, label, n, s =>
    match (label.filterMap fun c => if n ≤ c.toNat then some c.toNat else none).min? with
    | none => s.out
    | some m =>
      let s := { s with delta := s.delta + (m - n) * (s.handled + 1) }
      let s := label.foldl (Encoder.pass m) s
      encodeFrom fuel label (m + 1) { s with delta := s.delta + 1 }

/-- A label in letters and digits. -/
def encode (label : List Char) : List Char :=
  let basic := label.filter (·.toNat < 0x80)
  let start := if basic = [] then [] else basic ++ ['-']
  encodeFrom label.length label 0x80 ⟨0, 72, basic.length, basic.length, start⟩

/-- A distance and what follows it. -/
def readDistance : (fuel : Nat) → (i w k bias : Nat) → List Char → Option (Nat × List Char)
  | 0, _, _, _, _, _ => none
  | _, _, _, _, _, [] => none
  | fuel + 1, i, w, k, bias, c :: rest =>
    match digitValue? c with
    | none => none
    | some d =>
      let i := i + d * w
      let t := threshold k bias
      if Nat.pow 2 32 ≤ i then none
      else if d < t then some (i, rest)
      else readDistance fuel i (w * (36 - t)) (k + 36) bias rest

/-- Reads distances and puts their characters in place. -/
def decodeFrom : (fuel : Nat) → (n i bias : Nat) → (out : List Char) → List Char → Option (List Char)
  | 0, _, _, _, _, _ => none
  | _, _, _, _, out, [] => some out
  | fuel + 1, n, i, bias, out, s =>
    match readDistance 40 i 1 36 bias s with
    | none => none
    | some (next, rest) =>
      let points := out.length + 1
      let n := n + next / points
      if 0x10FFFF < n ∨ (0xD800 ≤ n ∧ n ≤ 0xDFFF) then none
      else
        let place := next % points
        decodeFrom fuel n (place + 1) (adapt (next - i) points (i = 0))
          (out.take place ++ Char.ofNat n :: out.drop place) rest

/-- The label that letters and digits write. -/
def decode? (s : List Char) : Option (List Char) :=
  let (basic, rest) := match (s.reverse.findIdx? (· = '-')) with
    | some back => (s.take (s.length - back - 1), s.drop (s.length - back))
    | none => ([], s)
  if basic.any (0x80 ≤ ·.toNat) then none
  else decodeFrom (s.length + 1) 0x80 0 72 basic rest

end BusRelay.Punycode
