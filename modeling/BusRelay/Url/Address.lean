import BusRelay.Url.Fault
/-!
# Internet addresses in URLs

IPv4 addresses in one to four parts, each decimal, octal or hexadecimal, and IPv6 addresses in
groups. Both are written in their canonical form.
-/

namespace BusRelay.Address

/-- The digits of a number in base 8, 10 or 16. -/
def digit? (base : Nat) (c : Char) : Option Nat :=
  let value? :=
    if '0' ≤ c ∧ c ≤ '9' then some (c.toNat - 48)
    else if 'a' ≤ c ∧ c ≤ 'f' then some (c.toNat - 87)
    else if 'A' ≤ c ∧ c ≤ 'F' then some (c.toNat - 55)
    else none
  value?.filter (· < base)

/-- The number that digits write, if all are digits. -/
def readNat? (base : Nat) (s : List Char) : Option Nat :=
  s.foldl (fun acc c => match acc, digit? base c with
    | some n, some d => some (base * n + d)
    | _, _ => none) (some 0)

/-- One part of an IPv4 address. -/
def part? : List Char → Option Nat
  | [] => none
  | '0' :: 'x' :: rest => readNat? 16 rest
  | '0' :: 'X' :: rest => readNat? 16 rest
  | '0' :: c :: rest => readNat? 8 (c :: rest)
  | s => readNat? 10 s

/-- The parts between points; a point at the end adds none. -/
def parts (s : List Char) : List (List Char) :=
  let all := s.splitOn '.'
  if 1 < all.length ∧ all.getLast? = some [] then all.dropLast else all

/-- Whether the last part is a number, so that the host has to be an IPv4 address. -/
def endsInNumber (s : List Char) : Bool :=
  match (parts s).getLast? with
  | none => false
  | some last => last ≠ [] && (last.all (·.isDigit) || (part? last).isSome)

/-- The address of a list of part values. The last one fills the octets that are left. -/
def ofParts (values : List Nat) : Except UrlFault Nat :=
  match values.getLast? with
  | none => .error .invalidIpv4
  | some last =>
    let front := values.dropLast
    if Nat.pow 256 (4 - front.length) ≤ last ∨ front.any (255 < ·) then .error .invalidIpv4
    else .ok ((front.zipIdx.map fun (v, i) => v * Nat.pow 256 (3 - i)).foldr (· + ·) 0 + last)

/-- An IPv4 address. -/
def readIpv4 (s : List Char) : Except UrlFault Nat :=
  let parts := parts s
  if 4 < parts.length then .error .invalidIpv4
  else match parts.mapM part? with
    | none => .error .invalidIpv4
    | some values => if values.any (Nat.pow 2 32 ≤ ·) then .error .invalidIpv4 else ofParts values

/-- Four octets with points. -/
def ipv4Text (address : Nat) : String :=
  s!"{address / 16777216}.{address / 65536 % 256}.{address / 256 % 256}.{address % 256}"

/-! ## IPv6 -/

/-- Hexadecimal digits at the start, at most four. -/
def readPiece (s : List Char) : Nat × Nat × List Char :=
  let ds := (s.take 4).takeWhile fun c => (digit? 16 c).isSome
  ((readNat? 16 ds).getD 0, ds.length, s.drop ds.length)

/-- A decimal octet without a zero in front. -/
def octet? (s : List Char) : Option (Nat × List Char) :=
  let ds := s.takeWhile (·.isDigit)
  match ds with
  | [] => none
  | '0' :: _ :: _ => none
  | _ => match readNat? 10 ds with
    | some n => if n ≤ 255 then some (n, s.drop ds.length) else none
    | none => none

/-- The IPv4 address at the end of an IPv6 address, as two groups. -/
def tailIpv4? (s : List Char) : Option (Nat × Nat) := do
  let (a, s) ← octet? s
  let '.' :: s := s | none
  let (b, s) ← octet? s
  let '.' :: s := s | none
  let (c, s) ← octet? s
  let '.' :: s := s | none
  let (d, s) ← octet? s
  if s = [] then some (a * 256 + b, c * 256 + d) else none

/-- Groups read so far, last first, and how many of them stand before the gap. -/
structure Groups where
  last : List Nat
  gap : Option Nat

/-- Reads groups and the gap. -/
def readGroups : (fuel : Nat) → Groups → List Char → Except UrlFault Groups
  | 0, _, _ => .error .invalidIpv6
  | _, groups, [] => .ok groups
  | fuel + 1, groups, s =>
    let count := groups.last.length
    if count = 8 then .error .invalidIpv6
    else match s with
      | ':' :: rest =>
        if groups.gap.isSome then .error .invalidIpv6
        else readGroups fuel { groups with gap := some count } rest
      | _ =>
        let (value, size, rest) := readPiece s
        match rest with
        | '.' :: _ =>
          if size = 0 ∨ 6 < count then .error .invalidIpv6
          else match tailIpv4? s with
            | some (high, low) => .ok { groups with last := low :: high :: groups.last }
            | none => .error .invalidIpv6
        | ':' :: [] => .error .invalidIpv6
        | ':' :: more => readGroups fuel { groups with last := value :: groups.last } more
        | [] => .ok { groups with last := value :: groups.last }
        | _ => .error .invalidIpv6

/-- The eight groups, with zeros in the gap. -/
def Groups.complete (groups : Groups) : Except UrlFault (List Nat) :=
  let values := groups.last.reverse
  match groups.gap with
  | some place =>
    if 8 ≤ values.length then .error .invalidIpv6
    else .ok (values.take place ++ List.replicate (8 - values.length) 0 ++ values.drop place)
  | none => if values.length = 8 then .ok values else .error .invalidIpv6

/-- An IPv6 address without its brackets. -/
def readIpv6 (s : List Char) : Except UrlFault (List Nat) :=
  match s with
  | ':' :: ':' :: rest => do (← readGroups 20 ⟨[], some 0⟩ rest).complete
  | ':' :: _ => .error .invalidIpv6
  | [] => .error .invalidIpv6
  | s => do (← readGroups 20 ⟨[], none⟩ s).complete

/-- The start and the length of the first longest run of zero groups. -/
def longestZeros (groups : List Nat) : Nat × Nat :=
  (List.range 8).foldl (fun (start, length) i =>
    let run := ((groups.drop i).takeWhile (· = 0)).length
    if length < run then (i, run) else (start, length)) (0, 0)

def hexText (n : Nat) : String := String.ofList (Nat.toDigits 16 n)

/-- Groups with colons, the first longest run of at least two zero groups left out. -/
def ipv6Text (groups : List Nat) : String :=
  let (start, length) := longestZeros groups
  if length < 2 then ":".intercalate (groups.map hexText)
  else
    ":".intercalate ((groups.take start).map hexText) ++ "::" ++
      ":".intercalate ((groups.drop (start + length)).map hexText)

end BusRelay.Address
