import BusRelay.Json.Tree
/-!
# Reading JSON text

The text is read from left to right into a located tree and the reading stops at the first octet that
no document can have there. Numbers without a fraction or a power of ten that fit 64 bits stay
integers. Other numbers are read from their leading digits that fit 64 bits, which are rounded to a
binary number and then multiplied or divided by a power of ten, so the last bit may differ from the
nearest number.
-/

namespace BusRelay.Json

open Utf8 (Bytes)

/-- What is left of a text, and the offset of its first octet. -/
structure Cursor where
  rest : Bytes
  offset : Nat

namespace Cursor

/-- The offset after the next octet, if there is one. -/
def ahead (c : Cursor) : Nat := if c.rest.isEmpty then c.offset else c.offset + 1

/-- A problem with the octet before the cursor. -/
def fault (c : Cursor) (problem : Problem) : Fault := ⟨problem, some c.offset⟩

/-- A problem with the next octet. -/
def faultAhead (c : Cursor) (problem : Problem) : Fault := ⟨problem, some c.ahead⟩

def ofBytes (text : Bytes) : Cursor := ⟨text, 0⟩

end Cursor

/-- The octet of an ASCII character. -/
def octet (c : Char) : UInt8 := c.toNat.toUInt8

def isBlank (b : UInt8) : Bool := b == 32 || b == 10 || b == 9 || b == 13

/-- Past blanks. -/
def skipBlanks : Bytes → Nat → Cursor
  | [], offset => ⟨[], offset⟩
  | b :: rest, offset => if isBlank b then skipBlanks rest (offset + 1) else ⟨b :: rest, offset⟩

def Cursor.blanks (c : Cursor) : Cursor := skipBlanks c.rest c.offset

/-- Where a fault that has no place of its own is reported: past blanks, and past the end of the
object if it comes next. -/
def Cursor.settled (c : Cursor) : Nat :=
  let c := c.blanks
  match c.rest with
  | b :: _ => if b = octet '}' then c.offset + 1 else c.offset
  | [] => c.offset

/-! ## Numbers -/

def isDigit (b : UInt8) : Bool := 48 ≤ b && b ≤ 57

def digitValue (b : UInt8) : Nat := b.toNat - 48

/-- Reads digits for as long as the number stays within `limit`: the number, the count of digits and
what is left, which starts with a digit if the limit ended the reading. -/
def digitsWithin (limit : Nat) : Bytes → (number count offset : Nat) → Nat × Nat × Cursor
  | [], n, count, offset => (n, count, ⟨[], offset⟩)
  | b :: rest, n, count, offset =>
    if isDigit b && 10 * n + digitValue b ≤ limit then
      digitsWithin limit rest (10 * n + digitValue b) (count + 1) (offset + 1)
    else (n, count, ⟨b :: rest, offset⟩)

/-- Past digits, and how many they are. -/
def skipDigits : Bytes → (count offset : Nat) → Nat × Cursor
  | [], count, offset => (count, ⟨[], offset⟩)
  | b :: rest, count, offset =>
    if isDigit b then skipDigits rest (count + 1) (offset + 1) else (count, ⟨b :: rest, offset⟩)

/-- The greatest unsigned integer of 64 bits. -/
def maxNatural : Nat := Nat.pow 2 64 - 1

/-- The greatest power of ten that is a binary number. -/
def maxPower : Nat := 308

/-- Divides by powers of ten until the number is nothing or the power is used up. -/
def divideByPower : (fuel : Nat) → Binary64 → (power : Nat) → Option Binary64
  | 0, x, _ => some x
  | fuel + 1, x, power =>
    if x.isZero then some x
    else if power ≤ maxPower then (Binary64.ofNat (Nat.pow 10 power)).bind (x.div ·)
    else ((Binary64.ofNat (Nat.pow 10 maxPower)).bind (x.div ·)).bind
      fun x => divideByPower fuel x (power - maxPower)

/-- `digits · 10 ^ power` in two roundings; `none` beyond the greatest binary number. -/
def fromParts (digits : Nat) (power : Int) : Option Binary64 :=
  (Binary64.ofNat digits).bind fun x =>
    if power < 0 then divideByPower 4 x power.natAbs
    else if x.isZero then some x
    else if power ≤ maxPower then (Binary64.ofNat (Nat.pow 10 power.toNat)).bind (x.mul ·)
    else none

/-- A binary number with its sign. -/
def floatFrom (negative : Bool) (digits : Nat) (power : Int) (c : Cursor) :
    Except Fault (Number × Cursor) :=
  match fromParts digits power with
  | none => .error (c.fault .numberOutOfRange)
  | some x => .ok (.float (if negative then x.neg else x), c)

/-- The power of ten after its `e`. -/
def readPower (negative : Bool) (digits : Nat) (power : Int) (c : Cursor) :
    Except Fault (Number × Cursor) :=
  let (positive, c) : Bool × Cursor := match c.rest with
    | b :: rest =>
      if b = octet '+' then (true, ⟨rest, c.offset + 1⟩)
      else if b = octet '-' then (false, ⟨rest, c.offset + 1⟩) else (true, c)
    | [] => (true, c)
  match c.rest with
  | [] => .error (c.fault .endInValue)
  | b :: _ =>
    if !isDigit b then .error (c.faultAhead .invalidNumber)
    else
      let (written, _, after) := digitsWithin (Nat.pow 2 31 - 1) c.rest 0 0 c.offset
      let tooLong := match after.rest with
        | d :: _ => isDigit d
        | [] => false
      if tooLong then
        if digits ≠ 0 && positive then .error (after.faultAhead .numberOutOfRange)
        else
          let zero := Binary64.zero negative
          .ok (.float zero, (skipDigits after.rest 0 after.offset).2)
      else floatFrom negative digits (if positive then power + written else power - written) after

/-- The power of ten, if there is one. -/
def readPowerOrEnd (negative : Bool) (digits : Nat) (power : Int) (c : Cursor) :
    Except Fault (Number × Cursor) :=
  match c.rest with
  | b :: rest =>
    if b = octet 'e' || b = octet 'E' then readPower negative digits power ⟨rest, c.offset + 1⟩
    else floatFrom negative digits power c
  | [] => floatFrom negative digits power c

/-- The fraction after its point. -/
def readFraction (negative : Bool) (digits : Nat) (power : Int) (c : Cursor) :
    Except Fault (Number × Cursor) :=
  let (digits, count, after) := digitsWithin maxNatural c.rest digits 0 c.offset
  match after.rest with
  | [] => if count = 0 then .error (after.faultAhead .endInValue)
    else floatFrom negative digits (power - count) after
  | b :: _ =>
    if isDigit b then
      readPowerOrEnd negative digits (power - count) (skipDigits after.rest 0 after.offset).2
    else if count = 0 then .error (after.faultAhead .invalidNumber)
    else readPowerOrEnd negative digits (power - count) after

/-- What follows the digits before the point. `dropped` of them did not fit. -/
def readNumberTail (negative : Bool) (digits dropped : Nat) (c : Cursor) :
    Except Fault (Number × Cursor) :=
  let whole : Except Fault (Number × Cursor) :=
    if dropped ≠ 0 then floatFrom negative digits dropped c
    else if !negative then .ok (.integer digits, c)
    else if digits = 0 || Nat.pow 2 63 < digits then
      .ok (.float ((Binary64.ofNat digits).getD (.zero false)).neg, c)
    else .ok (.integer (-digits), c)
  match c.rest with
  | b :: rest =>
    if b = octet '.' then readFraction negative digits dropped ⟨rest, c.offset + 1⟩
    else if b = octet 'e' || b = octet 'E' then
      readPower negative digits dropped ⟨rest, c.offset + 1⟩
    else whole
  | [] => whole

/-- A number after its sign. -/
def readNumber (negative : Bool) (c : Cursor) : Except Fault (Number × Cursor) :=
  match c.rest with
  | [] => .error (c.fault .endInValue)
  | b :: rest =>
    if b = octet '0' then
      let after : Cursor := ⟨rest, c.offset + 1⟩
      match rest with
      | d :: _ => if isDigit d then .error (after.faultAhead .invalidNumber)
        else readNumberTail negative 0 0 after
      | [] => readNumberTail negative 0 0 after
    else if isDigit b then
      let (digits, _, after) := digitsWithin maxNatural c.rest 0 0 c.offset
      let (dropped, after) := skipDigits after.rest 0 after.offset
      readNumberTail negative digits dropped after
    else .error (c.faultAhead .invalidNumber)

/-! ## Texts -/

def hexValue? (b : UInt8) : Option Nat :=
  if 48 ≤ b ∧ b ≤ 57 then some (b.toNat - 48)
  else if 97 ≤ b ∧ b ≤ 102 then some (b.toNat - 87)
  else if 65 ≤ b ∧ b ≤ 70 then some (b.toNat - 55)
  else none

/-- Four hexadecimal digits. -/
def readHex4 (c : Cursor) : Except Fault (Nat × Cursor) :=
  match c.rest with
  | a :: b :: d :: e :: rest =>
    let after : Cursor := ⟨rest, c.offset + 4⟩
    match hexValue? a, hexValue? b, hexValue? d, hexValue? e with
    | some a, some b, some d, some e => .ok (((a * 16 + b) * 16 + d) * 16 + e, after)
    | _, _, _, _ => .error (after.fault .invalidEscape)
  | short => .error ⟨.endInString, some (c.offset + short.length)⟩

/-- One octet that has to follow the first half of a surrogate pair. -/
def readPairOctet (expected : Char) (c : Cursor) : Except Fault Cursor :=
  match c.rest with
  | [] => .error (c.fault .endInString)
  | b :: rest =>
    if b = octet expected then .ok ⟨rest, c.offset + 1⟩
    else .error (c.faultAhead .endOfHexEscape)

/-- The character of an escape after its `u`. -/
def readUnicode (c : Cursor) : Except Fault (Char × Cursor) := do
  let (n, c) ← readHex4 c
  if 0xDC00 ≤ n && n ≤ 0xDFFF then throw (c.fault .loneSurrogate)
  if n < 0xD800 || 0xDBFF < n then return (Char.ofNat n, c)
  let c ← readPairOctet '\\' c
  let c ← readPairOctet 'u' c
  let (low, c) ← readHex4 c
  if low < 0xDC00 || 0xDFFF < low then throw (c.fault .loneSurrogate)
  return (Char.ofNat (0x10000 + (n - 0xD800) * 0x400 + (low - 0xDC00)), c)

/-- The character of an escape after its backslash. -/
def readEscape (c : Cursor) : Except Fault (Char × Cursor) :=
  match c.rest with
  | [] => .error (c.fault .endInString)
  | b :: rest =>
    let after : Cursor := ⟨rest, c.offset + 1⟩
    if b = octet '"' then .ok ('"', after)
    else if b = octet '\\' then .ok ('\\', after)
    else if b = octet '/' then .ok ('/', after)
    else if b = octet 'b' then .ok ('\x08', after)
    else if b = octet 'f' then .ok ('\x0c', after)
    else if b = octet 'n' then .ok ('\n', after)
    else if b = octet 'r' then .ok ('\r', after)
    else if b = octet 't' then .ok ('\t', after)
    else if b = octet 'u' then readUnicode after
    else .error (after.fault .invalidEscape)

/-- The octets of a text up to its closing quote, last first. -/
def readTextOctets : (fuel : Nat) → (last : Bytes) → Cursor → Except Fault (Bytes × Cursor)
  | 0, _, c => .error (c.fault .endInString)
  | fuel + 1, last, c =>
    match c.rest with
    | [] => .error (c.fault .endInString)
    | b :: rest =>
      let after : Cursor := ⟨rest, c.offset + 1⟩
      if b = octet '"' then .ok (last, after)
      else if b = octet '\\' then
        match readEscape after with
        | .error fault => .error fault
        | .ok (character, after) =>
          readTextOctets fuel ((Utf8.charBytes character).reverse ++ last) after
      else if b < 0x20 then .error (after.fault .controlCharacter)
      else readTextOctets fuel (b :: last) after

/-- A text after its opening quote. -/
def readText (c : Cursor) : Except Fault (String × Cursor) :=
  match readTextOctets (c.rest.length + 1) [] c with
  | .error fault => .error fault
  | .ok (last, after) =>
    match Utf8.text? last.reverse with
    | some s => .ok (s, after)
    | none => .error ⟨.invalidCodePoint,
        some (c.offset + Utf8.validLength c.rest.length c.rest + 1)⟩

/-! ## Values -/

/-- The rest of an identifier. -/
def readIdentifier : List Char → Cursor → Except Fault Cursor
  | [], c => .ok c
  | expected :: more, c =>
    match c.rest with
    | [] => .error (c.fault .endInValue)
    | b :: rest =>
      if b = octet expected then readIdentifier more ⟨rest, c.offset + 1⟩
      else .error (c.faultAhead .expectedIdentifier)

/-- A scalar and what is left, or the fault in its place. -/
def leaf {α : Type} (make : α → Nat → Tree) : Except Fault (α × Cursor) → Tree × Except Fault Cursor
  | .ok (value, c) => (make value c.offset, .ok c)
  | .error fault => (.broken fault, .error fault)

/-- A value where the text breaks off. -/
def cut (fault : Fault) : Tree × Except Fault Cursor := (.broken fault, .error fault)

/-- The offset of what is left. -/
def stopOf : Except Fault Cursor → Except Fault Nat
  | .ok c => .ok c.offset
  | .error fault => .error fault

/-- What precedes the next item of a list: its end, the item, or a fault. -/
def nextItem (first : Bool) (c : Cursor) : Except Fault (Option Cursor × Cursor) :=
  let c := c.blanks
  match c.rest with
  | [] => .error (c.faultAhead .endInList)
  | b :: rest =>
    if b = octet ']' then .ok (none, ⟨rest, c.offset + 1⟩)
    else if first then .ok (some c, c)
    else if b = octet ',' then
      let c := (⟨rest, c.offset + 1⟩ : Cursor).blanks
      match c.rest with
      | [] => .error (c.faultAhead .endInValue)
      | b :: _ =>
        if b = octet ']' then .error (c.faultAhead .trailingComma) else .ok (some c, c)
    else .error (c.faultAhead .expectedListEnd)

/-- What precedes the next name of an object: its end, the name after its quote, or a fault. -/
def nextName (first : Bool) (c : Cursor) : Except Fault (Option Cursor × Cursor) :=
  let c := c.blanks
  match c.rest with
  | [] => .error (c.faultAhead .endInObject)
  | b :: rest =>
    let after : Cursor := ⟨rest, c.offset + 1⟩
    if b = octet '}' then .ok (none, after)
    else if first then
      if b = octet '"' then .ok (some after, after) else .error (c.faultAhead .keyNotText)
    else if b = octet ',' then
      let c := after.blanks
      match c.rest with
      | [] => .error (c.faultAhead .endInValue)
      | b :: rest =>
        if b = octet '"' then .ok (some ⟨rest, c.offset + 1⟩, c)
        else if b = octet '}' then .error (c.faultAhead .trailingComma)
        else .error (c.faultAhead .keyNotText)
    else .error (c.faultAhead .expectedObjectEnd)

/-- The colon after a name. -/
def readColon (c : Cursor) : Except Fault Cursor :=
  let c := c.blanks
  match c.rest with
  | [] => .error (c.faultAhead .endInObject)
  | b :: rest =>
    if b = octet ':' then .ok ⟨rest, c.offset + 1⟩ else .error (c.faultAhead .expectedColon)

mutual

/-- One value. Lists and objects may be nested `depth` deep. -/
def readValue (depth : Nat) : (fuel : Nat) → Cursor → Tree × Except Fault Cursor
  | 0, c => cut (c.faultAhead .endInValue)
  | fuel + 1, c =>
    let c := c.blanks
    match c.rest with
    | [] => cut (c.faultAhead .endInValue)
    | b :: rest =>
      let after : Cursor := ⟨rest, c.offset + 1⟩
      if b = octet 'n' then
        leaf (fun _ => .null) ((readIdentifier ['u', 'l', 'l'] after).map fun c => ((), c))
      else if b = octet 't' then
        leaf .bool ((readIdentifier ['r', 'u', 'e'] after).map fun c => (true, c))
      else if b = octet 'f' then
        leaf .bool ((readIdentifier ['a', 'l', 's', 'e'] after).map fun c => (false, c))
      else if b = octet '-' then leaf .number (readNumber true after)
      else if isDigit b then leaf .number (readNumber false c)
      else if b = octet '"' then leaf .string (readText after)
      else if b = octet '[' then
        if depth = 0 then cut (c.faultAhead .nestedTooDeep)
        else
          let (items, left) := readItems (depth - 1) true fuel after
          (.array c.offset items (stopOf left), left)
      else if b = octet '{' then
        if depth = 0 then cut (c.faultAhead .nestedTooDeep)
        else
          let (members, left) := readMembers (depth - 1) true fuel after
          (.object c.offset members (stopOf left), left)
      else cut (c.faultAhead .expectedValue)

/-- The items of a list after its opening bracket or after an item. -/
def readItems (depth : Nat) (first : Bool) : (fuel : Nat) → Cursor → List Tree × Except Fault Cursor
  | 0, c => ([], .error (c.faultAhead .endInList))
  | fuel + 1, c =>
    match nextItem first c with
    | .error fault => ([], .error fault)
    | .ok (none, after) => ([], .ok after)
    | .ok (some c, _) =>
      match readValue depth fuel c with
      | (item, .error fault) => ([item], .error fault)
      | (item, .ok c) =>
        let (items, left) := readItems depth false fuel c
        (item :: items, left)

/-- The members of an object after its opening brace or after a member. -/
def readMembers (depth : Nat) (first : Bool) :
    (fuel : Nat) → Cursor → List (String × Nat × Tree) × Except Fault Cursor
  | 0, c => ([], .error (c.faultAhead .endInObject))
  | fuel + 1, c =>
    match nextName first c with
    | .error fault => ([], .error fault)
    | .ok (none, after) => ([], .ok after)
    | .ok (some c, _) =>
      match readText c with
      | .error fault => ([], .error fault)
      | .ok (name, named) =>
        match readColon named with
        | .error fault => ([(name, named.settled, .broken fault)], .error fault)
        | .ok c =>
          match readValue depth fuel c with
          | (value, .error fault) => ([(name, named.settled, value)], .error fault)
          | (value, .ok c) =>
            let (members, left) := readMembers depth false fuel c
            ((name, named.settled, value) :: members, left)

end

/-- How deep lists and objects may be nested. -/
def maxDepth : Nat := 127

/-- The value of a document, and what follows it. -/
def readTree (text : Bytes) : Tree × Except Fault Cursor :=
  readValue maxDepth (2 * text.length + 2) (.ofBytes text)

/-- Refuses anything but blanks after a document. -/
def endOfDocument (c : Cursor) : Except Fault Unit :=
  let c := c.blanks
  if c.rest.isEmpty then .ok () else .error (c.faultAhead .trailingCharacters)

/-- What a reader makes of a whole document. Its own faults come before what follows the value. -/
def decodeWith {α : Type} (read : Tree → Except Fault α) (text : Bytes) : Except Fault α := do
  let (tree, left) := readTree text
  let value ← read tree
  endOfDocument (← left)
  return value

/-- The canonical value that a text writes. -/
def decode (text : Bytes) : Except Fault Json :=
  decodeWith (fun tree => canonical <$> tree.toJson) text

/-- The canonical value that a text writes, if it is a document. -/
def decode? (text : Bytes) : Option Json := (decode text).toOption

end BusRelay.Json
