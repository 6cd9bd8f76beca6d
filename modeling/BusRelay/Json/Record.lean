import BusRelay.Json.Skip
/-!
# Records

A record is read from an object, by the names of its members, or from a list, by their order. Members of
an object that have other names are skipped.
-/

namespace BusRelay.Json

open Utf8 (Bytes)

/-- How a record is read: `α` is what it is and `σ` what is known of it before the end of its text. -/
structure Record (σ α : Type) where
  /-- What it is called in faults. -/
  name : String
  /-- The names of its members, in order. -/
  members : List String
  /-- Before any member. -/
  empty : σ
  /-- Sets the member of a name. -/
  set : σ → (name : String) → Tree → Except Fault σ
  /-- What it is after all members. -/
  complete : σ → Except Problem α

/-! ## From a text to a tree -/

/-- The members of these names in an object, after its opening brace or after a member. The others are
skipped. -/
def readKnown (names : List String) (depth : Nat) (first : Bool) :
    (fuel : Nat) → Cursor → List (String × Nat × Tree) × Except Fault Cursor
  | 0, c => ([], .error (c.faultAhead .endInObject))
  | fuel + 1, c =>
    match nextName first c with
    | .error fault => ([], .error fault)
    | .ok (none, after) => ([], .ok after)
    | .ok (some c, _) =>
      match readText c with
      | .error fault => ([], .error fault)
      | .ok (name, named) =>
        if name ∈ names then
          match readColon named with
          | .error fault => ([(name, named.settled, .broken fault)], .error fault)
          | .ok c =>
            match readValue depth fuel c with
            | (value, .error fault) => ([(name, named.settled, value)], .error fault)
            | (value, .ok c) =>
              let (members, left) := readKnown names depth false fuel c
              ((name, named.settled, value) :: members, left)
        else
          match readColon named with
          | .error fault => ([], .error fault)
          | .ok c =>
            match skipValue fuel c with
            | .error fault => ([], .error fault)
            | .ok c => readKnown names depth false fuel c

/-- The end of a list of which no more items are wanted. -/
def readListEnd (c : Cursor) : Except Fault Cursor :=
  let c := c.blanks
  match c.rest with
  | [] => .error (c.faultAhead .endInList)
  | b :: rest =>
    let after : Cursor := ⟨rest, c.offset + 1⟩
    if b = octet ']' then .ok after
    else if b = octet ',' then
      let c := after.blanks
      if c.rest.head? = some (octet ']') then .error (c.faultAhead .trailingComma)
      else .error (c.faultAhead .trailingCharacters)
    else .error (c.faultAhead .trailingCharacters)

/-- So many items of a list, unless it ends before, and its end. -/
def readFirst (depth fuel : Nat) (first : Bool) : (count : Nat) → Cursor → List Tree × Except Fault Cursor
  | 0, c => ([], readListEnd c)
  | count + 1, c =>
    match nextItem first c with
    | .error fault => ([], .error fault)
    | .ok (none, after) => ([], .ok after)
    | .ok (some c, _) =>
      match readValue depth fuel c with
      | (item, .error fault) => ([item], .error fault)
      | (item, .ok c) =>
        let (items, left) := readFirst depth fuel false count c
        (item :: items, left)

/-- The value of a document without the members that have other names than these and without the items
beyond their number, and what follows it. -/
def readRecord (names : List String) (text : Bytes) : Tree × Except Fault Cursor :=
  let fuel := 2 * text.length + 2
  let c := (Cursor.ofBytes text).blanks
  match c.rest with
  | [] => readTree text
  | b :: rest =>
    let after : Cursor := ⟨rest, c.offset + 1⟩
    if b = octet '[' then
      let (items, left) := readFirst (maxDepth - 1) fuel true names.length after
      (.array c.offset items (stopOf left), left)
    else if b = octet '{' then
      let (members, left) := readKnown names (maxDepth - 1) true fuel after
      (.object c.offset members (stopOf left), left)
    else readTree text

/-! ## From a tree to a record -/

namespace Record

variable {σ α : Type} (r : Record σ α)

/-- Sets members by their names, none of them twice. -/
def setMembers (seen : List String) (s : σ) : List (String × Nat × Tree) → Except Fault σ
  | [] => .ok s
  | (name, named, value) :: rest => do
    if name ∈ seen then throw ⟨.repeatedMember name, some named⟩
    setMembers (name :: seen) (← r.set s name value) rest

/-- Sets members in their order. -/
def setItems (s : σ) : List (String × Tree) → Except Fault σ
  | [] => .ok s
  | (name, value) :: rest => do setItems (← r.set s name value) rest

/-- The record, whose text ends at `stop`. -/
def finish (s : σ) (stop : Nat) : Except Fault α := (r.complete s).mapError (⟨·, some stop⟩)

/-- The record that a value is. -/
def ofTree : Tree → Except Fault α
  | .object _ members stop => do
    let s ← r.setMembers [] r.empty members
    r.finish s (← stop)
  | .array _ items stop => do
    let s ← r.setItems r.empty (r.members.zip items)
    let stop ← stop
    if items.length < r.members.length then
      throw ⟨.refused (s!"invalid length {items.length}, expected struct {r.name} with " ++
        s!"{r.members.length} elements"), some stop⟩
    r.finish s stop
  | tree => .error (tree.unexpected s!"struct {r.name}")

/-- The record that a text writes. -/
def decode (text : Bytes) : Except Fault α := do
  let (tree, left) := readRecord r.members text
  let value ← r.ofTree tree
  endOfDocument (← left)
  return value

end Record

/-- The integer that a value is, if it is within bounds. -/
def readInteger (low high : Int) (expected : String) : Tree → Except Fault Int
  | .number (.integer n) stop =>
    if low ≤ n ∧ n ≤ high then .ok n
    else .error ⟨.invalidValue s!"integer \x60{integerText n}\x60" expected, some stop⟩
  | tree => .error (tree.unexpected expected)

end BusRelay.Json
