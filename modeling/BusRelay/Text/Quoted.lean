import BusRelay.Text.Printable
/-!
# Quoted text

A text as it stands in a diagnostic: between double quotes, with a backslash before a quote or a
backslash, short escapes for NUL, tab, line feed and carriage return, and the code point in
hexadecimal for a character that does not print as itself. The characters of one quoted text never
end it early, so a row of quoted texts can be told apart again.
-/

namespace BusRelay.Quoted

/-- One character inside the quotes. -/
def escapeChar (c : Char) : List Char :=
  if c = '\x00' then ['\\', '0']
  else if c = '\t' then ['\\', 't']
  else if c = '\n' then ['\\', 'n']
  else if c = '\r' then ['\\', 'r']
  else if c = '"' then ['\\', '"']
  else if c = '\\' then ['\\', '\\']
  else if Printable.isPrintable c then [c]
  else ['\\', 'u', '{'] ++ Nat.toDigits 16 c.toNat ++ ['}']

/-- The characters between the quotes. -/
def escape (s : List Char) : List Char := s.flatMap escapeChar

/-- A text between quotes. -/
def quote (s : String) : String := String.ofList ('"' :: escape s.toList ++ ['"'])

/-- A row of already rendered items, in brackets. -/
def brackets (items : List String) : String := "[" ++ ", ".intercalate items ++ "]"

/-- A row of entries, in braces. -/
def braces (entries : List (String × String)) : String :=
  "\x7b" ++ ", ".intercalate (entries.map fun (key, value) => key ++ ": " ++ value) ++ "\x7d"

/-- An optional rendering. -/
def optional : Option String → String
  | none => "None"
  | some s => "Some(" ++ s ++ ")"

/-- A record: its name, its fields in order, and whether some fields are left out. -/
def record (name : String) (fields : List (String × String)) (complete : Bool) : String :=
  let shown := fields.map fun (field, value) => field ++ ": " ++ value
  let all := if complete then shown else shown ++ [".."]
  name ++ " \x7b " ++ ", ".intercalate all ++ " \x7d"

end BusRelay.Quoted
