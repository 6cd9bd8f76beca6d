import BusRelay.Text.Utf8
/-!
# Faults in a JSON document

What is wrong with a document and at which octet. A fault is reported with the line and the column of
that octet, counted in octets from one and from zero.
-/

namespace BusRelay.Json

/-- What is wrong. -/
inductive Problem where
  | endInList
  | endInObject
  | endInString
  | endInValue
  | expectedColon
  | expectedListEnd
  | expectedObjectEnd
  | expectedIdentifier
  | expectedValue
  | invalidEscape
  | invalidNumber
  | numberOutOfRange
  | invalidCodePoint
  | controlCharacter
  | keyNotText
  | loneSurrogate
  | trailingComma
  | trailingCharacters
  | endOfHexEscape
  | nestedTooDeep
  /-- A value of another type than the one expected. -/
  | invalidType (found expected : String)
  /-- A value of the right type that is none of the expected ones. -/
  | invalidValue (found expected : String)
  | missingMember (name : String)
  | repeatedMember (name : String)
  /-- A text that its own grammar refuses. -/
  | refused (reason : String)
  deriving DecidableEq, Repr

/-- A problem and the offset that is reported with it, if one is. -/
structure Fault where
  problem : Problem
  offset : Option Nat
  deriving DecidableEq, Repr

def Problem.message : Problem → String
  | endInList => "EOF while parsing a list"
  | endInObject => "EOF while parsing an object"
  | endInString => "EOF while parsing a string"
  | endInValue => "EOF while parsing a value"
  | expectedColon => "expected `:`"
  | expectedListEnd => "expected `,` or `]`"
  | expectedObjectEnd => "expected `,` or `\x7d`"
  | expectedIdentifier => "expected ident"
  | expectedValue => "expected value"
  | invalidEscape => "invalid escape"
  | invalidNumber => "invalid number"
  | numberOutOfRange => "number out of range"
  | invalidCodePoint => "invalid unicode code point"
  | controlCharacter => "control character (\\u0000-\\u001F) found while parsing a string"
  | keyNotText => "key must be a string"
  | loneSurrogate => "lone leading surrogate in hex escape"
  | trailingComma => "trailing comma"
  | trailingCharacters => "trailing characters"
  | endOfHexEscape => "unexpected end of hex escape"
  | nestedTooDeep => "recursion limit exceeded"
  | invalidType found expected => "invalid type: " ++ found ++ ", expected " ++ expected
  | invalidValue found expected => "invalid value: " ++ found ++ ", expected " ++ expected
  | missingMember name => "missing field `" ++ name ++ "`"
  | repeatedMember name => "duplicate field `" ++ name ++ "`"
  | refused reason => reason

/-- The line of an offset, counted from one, and its distance from the start of that line. -/
def lineAndColumn (text : Utf8.Bytes) (offset : Nat) : Nat × Nat :=
  (text.take offset).foldl (fun (line, column) (b : UInt8) =>
    if b = 10 then (line + 1, 0) else (line, column + 1)) (1, 0)

/-- The problem, and where it is. -/
def Fault.message (fault : Fault) (text : Utf8.Bytes) : String :=
  match fault.offset with
  | none => fault.problem.message
  | some offset =>
    let (line, column) := lineAndColumn text offset
    fault.problem.message ++ s!" at line {line} column {column}"

end BusRelay.Json
