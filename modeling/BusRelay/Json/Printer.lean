import BusRelay.Decimal.Written
import BusRelay.Json.Value
/-!
# Compact JSON text

No blanks, members in the order of the value, integers as they are and other numbers by their
shortest decimal. In a text only the quote, the backslash and control characters are escaped.
-/

namespace BusRelay.Json

/-- The last two hexadecimal digits of a control character. -/
def controlDigits (c : Char) : List Char :=
  let ds := Nat.toDigits 16 c.toNat
  List.replicate (2 - ds.length) '0' ++ ds

/-- One character inside the quotes. -/
def escapeChar (c : Char) : List Char :=
  if c = '"' then ['\\', '"']
  else if c = '\\' then ['\\', '\\']
  else if c = '\x08' then ['\\', 'b']
  else if c = '\x0c' then ['\\', 'f']
  else if c = '\n' then ['\\', 'n']
  else if c = '\r' then ['\\', 'r']
  else if c = '\t' then ['\\', 't']
  else if c.toNat < 0x20 then ['\\', 'u', '0', '0'] ++ controlDigits c
  else [c]

/-- A text between quotes. -/
def quoteChars (s : String) : List Char := '"' :: s.toList.flatMap escapeChar ++ ['"']

/-- The decimal digits of an integer. -/
def integerText (n : Int) : String :=
  String.ofList ((if n < 0 then ['-'] else []) ++ Nat.toDigits 10 n.natAbs)

/-- A number as written. -/
def Number.text : Number → String
  | .integer n => integerText n
  | .float x => WrittenNumber.json x

mutual

/-- The compact text of a value. -/
def chars : Json → List Char
  | null => ['n', 'u', 'l', 'l']
  | bool true => ['t', 'r', 'u', 'e']
  | bool false => ['f', 'a', 'l', 's', 'e']
  | number n => n.text.toList
  | string s => quoteChars s
  | array items => '[' :: itemChars true items ++ [']']
  | object members => '{' :: memberChars true members ++ ['}']

/-- Items with commas between them. -/
def itemChars (first : Bool) : List Json → List Char
  | [] => []
  | item :: rest => (if first then [] else [',']) ++ chars item ++ itemChars false rest

/-- Members with commas between them. -/
def memberChars (first : Bool) : List (String × Json) → List Char
  | [] => []
  | (name, value) :: rest =>
    (if first then [] else [',']) ++ quoteChars name ++ ':' :: chars value ++ memberChars false rest

end

/-- The compact text of a value. -/
def text (value : Json) : String := String.ofList (chars value)

end BusRelay.Json
