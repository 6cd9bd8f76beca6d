import BusRelay.Settings.Value
/-!
# Environments

The variables of a process. Names have no letter case. A name like `name.part` or `name[0]` does not
set `name` to a value but makes it a table or a sequence. Of several variables that set the same name
the last one counts.

The variables are in the order in which they are collected. Those that differ by letter case alone are
collected in the order that the process has them in. If one sets a name whole and another one a part of
it, either may come first, whatever order the process has them in: nothing is said here of which one it
is, and the order is assumed to be given.
-/

namespace BusRelay

/-- The variables of a process with their texts, in the order in which they are collected. -/
abbrev Environment := List (String × String)

/-- How a variable sets a name. -/
inductive Place where
  | whole
  | table
  | sequence
  deriving DecidableEq, Repr

namespace Place

/-- A character of a name that can have parts. -/
def isNameChar (c : Char) : Bool := c.isAlphanum || c = ' ' || c = '_' || c = '-'

/-- Without the blanks and tabs at the start. -/
def skipBlanks (s : List Char) : List Char := s.dropWhile fun c => c = ' ' || c = '\t'

/-- What follows the number and the bracket of an item. -/
def afterItem? (s : List Char) : Option (List Char) :=
  let s := skipBlanks s
  let s := if s.head? = some '-' then s.tail else s
  if s.head?.any Char.isDigit then
    match skipBlanks (s.dropWhile Char.isDigit) with
    | ']' :: rest => some rest
    | _ => none
  else none

/-- Whether a text is a row of parts and items; `fuel` is at least their number. -/
def isPath : (fuel : Nat) → List Char → Bool
  | _, [] => true
  | fuel + 1, '.' :: rest =>
    rest.head?.any isNameChar && isPath fuel (rest.dropWhile isNameChar)
  | fuel + 1, '[' :: rest => (afterItem? rest).any (isPath fuel)
  | _, _ => false

/-- The name that a variable sets, and how. A name that is not well formed is taken as it is. -/
def read (name : String) : String × Place :=
  let s := name.toList
  let first := s.takeWhile isNameChar
  let rest := s.dropWhile isNameChar
  if first ≠ [] ∧ isPath rest.length rest then
    match rest with
    | [] => (name, whole)
    | '.' :: _ => (String.ofList first, table)
    | _ => (String.ofList first, sequence)
  else (name, whole)

end Place

/-- What a name is set to. -/
inductive Setting where
  | value (v : SettingValue)
  | table
  | sequence
  deriving DecidableEq, Repr

namespace Environment

/-- What the variables set, each with how and to which text. -/
def assignments (env : Environment) : List (String × Place × String) :=
  env.map fun (name, text) =>
    let (set, place) := Place.read (LowerCase.lower name)
    (set, place, text)

/-- How the last variable that sets a name does so, and to which text. -/
def last? (env : Environment) (name : String) : Option (Place × String) :=
  ((assignments env).filter (·.1 = name)).getLast?.map Prod.snd

/-- What a name is set to. -/
def setting? (env : Environment) (name : String) : Option Setting :=
  (env.last? name).map fun (place, text) => match place with
    | .whole => .value (.read text)
    | .table => .table
    | .sequence => .sequence

/-- The text of the variable of exactly this name. -/
def text? (env : Environment) (name : String) : Option String :=
  (env.find? fun v => v.1 = name).map Prod.snd

end Environment

end BusRelay
