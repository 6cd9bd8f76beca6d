import BusRelay.Json.Reader
/-!
# Skipping JSON text

A value that nobody asks for is passed over by its syntax alone. Its numbers may be out of range, its
escapes may stand for no character, its octets need not be UTF-8 and its lists and objects may be nested
to any depth.
-/

namespace BusRelay.Json

/-! ## Numbers -/

/-- Past the power of ten after its `e`. -/
def skipPower (c : Cursor) : Except Fault Cursor :=
  let c : Cursor := match c.rest with
    | b :: rest => if b = octet '+' || b = octet '-' then ⟨rest, c.offset + 1⟩ else c
    | [] => c
  match c.rest with
  | [] => .error (c.faultAhead .invalidNumber)
  | b :: rest =>
    if isDigit b then .ok (skipDigits rest 0 (c.offset + 1)).2
    else .error (c.faultAhead .invalidNumber)

/-- Past the power of ten, if there is one. -/
def skipPowerOrEnd (c : Cursor) : Except Fault Cursor :=
  match c.rest with
  | b :: rest =>
    if b = octet 'e' || b = octet 'E' then skipPower ⟨rest, c.offset + 1⟩ else .ok c
  | [] => .ok c

/-- Past the fraction after its point. -/
def skipFraction (c : Cursor) : Except Fault Cursor :=
  match skipDigits c.rest 0 c.offset with
  | (0, after) => .error (after.faultAhead .invalidNumber)
  | (_ + 1, after) => skipPowerOrEnd after

/-- Past what follows the digits before the point. -/
def skipNumberTail (c : Cursor) : Except Fault Cursor :=
  match c.rest with
  | b :: rest =>
    if b = octet '.' then skipFraction ⟨rest, c.offset + 1⟩ else skipPowerOrEnd c
  | [] => .ok c

/-- Past a number after its sign. -/
def skipNumber (c : Cursor) : Except Fault Cursor :=
  match c.rest with
  | [] => .error (c.faultAhead .invalidNumber)
  | b :: rest =>
    let after : Cursor := ⟨rest, c.offset + 1⟩
    if b = octet '0' then
      match rest with
      | d :: _ => if isDigit d then .error (after.faultAhead .invalidNumber) else skipNumberTail after
      | [] => skipNumberTail after
    else if isDigit b then skipNumberTail (skipDigits rest 0 after.offset).2
    else .error (c.faultAhead .invalidNumber)

/-! ## Texts -/

/-- What may follow the backslash of an escape that is a letter or a mark. -/
def escapeLetters : List Char := ['"', '\\', '/', 'b', 'f', 'n', 'r', 't']

/-- Past an escape after its backslash. -/
def skipEscape (c : Cursor) : Except Fault Cursor :=
  match c.rest with
  | [] => .error (c.fault .endInString)
  | b :: rest =>
    let after : Cursor := ⟨rest, c.offset + 1⟩
    if b ∈ escapeLetters.map octet then .ok after
    else if b = octet 'u' then (readHex4 after).map Prod.snd
    else .error (after.fault .invalidEscape)

/-- Past what is left of a text and its closing quote. -/
def skipTextOctets : (fuel : Nat) → Cursor → Except Fault Cursor
  | 0, c => .error (c.fault .endInString)
  | fuel + 1, c =>
    match c.rest with
    | [] => .error (c.fault .endInString)
    | b :: rest =>
      let after : Cursor := ⟨rest, c.offset + 1⟩
      if b = octet '"' then .ok after
      else if b = octet '\\' then
        match skipEscape after with
        | .error fault => .error fault
        | .ok after => skipTextOctets fuel after
      else if b < 0x20 then .error (c.fault .controlCharacter)
      else skipTextOctets fuel after

/-- Past a text after its opening quote. -/
def skipText (c : Cursor) : Except Fault Cursor := skipTextOctets (c.rest.length + 1) c

/-! ## Values -/

/-- What encloses a value that is skipped. -/
inductive Frame where
  | list
  | object

namespace Frame

/-- The octet that closes it. -/
def close : Frame → UInt8
  | list => octet ']'
  | object => octet '}'

/-- The text ends before it is closed. -/
def unclosed : Frame → Problem
  | list => .endInList
  | object => .endInObject

/-- Neither a comma nor its end comes after a value. -/
def unseparated : Frame → Problem
  | list => .expectedListEnd
  | object => .expectedObjectEnd

/-- Past its end, with `true`, or up to what precedes its next value. -/
def next (f : Frame) (first : Bool) (c : Cursor) : Except Fault (Bool × Cursor) :=
  let c := c.blanks
  match c.rest with
  | [] => .error (c.faultAhead f.unclosed)
  | b :: rest =>
    let after : Cursor := ⟨rest, c.offset + 1⟩
    if b = f.close then .ok (true, after)
    else if first then .ok (false, c)
    else if b = octet ',' then .ok (false, after)
    else .error (c.faultAhead f.unseparated)

/-- Past what precedes a value: a name and a colon in an object. -/
def lead : Frame → Cursor → Except Fault Cursor
  | list, c => .ok c
  | object, c =>
    let c := c.blanks
    match c.rest with
    | [] => .error (c.faultAhead .endInObject)
    | b :: rest =>
      if b = octet '"' then skipText ⟨rest, c.offset + 1⟩ >>= readColon
      else .error (c.faultAhead .keyNotText)

end Frame

mutual

/-- Past one value. -/
def skipValue : (fuel : Nat) → Cursor → Except Fault Cursor
  | 0, c => .error (c.faultAhead .endInValue)
  | fuel + 1, c =>
    let c := c.blanks
    match c.rest with
    | [] => .error (c.faultAhead .endInValue)
    | b :: rest =>
      let after : Cursor := ⟨rest, c.offset + 1⟩
      if b = octet 'n' then readIdentifier ['u', 'l', 'l'] after
      else if b = octet 't' then readIdentifier ['r', 'u', 'e'] after
      else if b = octet 'f' then readIdentifier ['a', 'l', 's', 'e'] after
      else if b = octet '-' then skipNumber after
      else if isDigit b then skipNumber c
      else if b = octet '"' then skipText after
      else if b = octet '[' then skipInside .list true fuel after
      else if b = octet '{' then skipInside .object true fuel after
      else .error (c.faultAhead .expectedValue)

/-- Past what is left of a list or an object after its opening or after a value. -/
def skipInside (f : Frame) (first : Bool) : (fuel : Nat) → Cursor → Except Fault Cursor
  | 0, c => .error (c.faultAhead f.unclosed)
  | fuel + 1, c => do
    let (closed, c) ← f.next first c
    if closed then return c
    skipInside f false fuel (← skipValue fuel (← f.lead c))

end

end BusRelay.Json
