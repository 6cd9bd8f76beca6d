import BusRelay.Decimal.Floating
import BusRelay.Json.Printer
import BusRelay.Text.LowerCase
import BusRelay.Text.Quoted
/-!
# Values of variables

What the text of a variable stands for is told from the text alone: a flag, an integer of 64 bits, a
floating-point number, or else a text, in this order. A setting then takes the value as what it needs,
so a number may come out of a text written otherwise, and a text out of a number.
-/

namespace BusRelay

/-- What the text of a variable stands for. -/
inductive SettingValue where
  | flag (value : Bool)
  | integer (value : Int)
  | floating (value : Floating)
  | text (value : String)
  deriving DecidableEq, Repr

/-- What a setting needs. -/
inductive SettingKind where
  | text
  | integer
  /-- An integer that is not negative. -/
  | natural
  /-- An integer of 32 bits that is not negative. -/
  | short
  | flag
  deriving DecidableEq, Repr

def SettingKind.name : SettingKind → String
  | text => "a string"
  | integer => "an integer"
  | natural => "an unsigned 64 bit or less integer"
  | short => "an unsigned 32 bit integer"
  | flag => "a boolean"

/-- What was found in place of what is needed. -/
inductive Mismatch where
  | text (value : String)
  | integer (value : Int)
  | natural (value : Nat)
  | table
  | sequence
  deriving DecidableEq, Repr

def Mismatch.name : Mismatch → String
  | text value => "string " ++ Quoted.quote value
  | integer value => "64-bit integer \x60" ++ Json.integerText value ++ "\x60"
  | natural value => s!"64-bit unsigned integer \x60{value}\x60"
  | table => "map"
  | sequence => "sequence"

namespace SettingValue

/-- The flag that a text in lower case names. -/
def flagOf? : String → Option Bool
  | "true" => some true
  | "false" => some false
  | _ => none

/-- The answer that a text in lower case names. -/
def answerOf? : String → Option Bool
  | "true" | "on" | "yes" => some true
  | "false" | "off" | "no" => some false
  | _ => none

/-- Whether an integer has at most 64 bits. -/
def fits (n : Int) : Bool := -Int.pow 2 63 ≤ n && n < Int.pow 2 63

/-- What a text stands for. -/
def read (s : String) : SettingValue :=
  match flagOf? (LowerCase.lower s) with
  | some b => flag b
  | none => match (Floating.readInteger? s.toList).filter fits with
    | some n => integer n
    | none => match Floating.read? s.toList with
      | some x => floating x
      | none => text s

/-- The value as a text, written in one way. -/
def asText : SettingValue → String
  | flag true => "true"
  | flag false => "false"
  | integer n => Json.integerText n
  | floating x => x.text
  | text s => s

/-- The value as a flag: numbers other than zero hold. No text is left that writes a number. -/
def asFlag : SettingValue → Except (Mismatch × SettingKind) Bool
  | flag b => .ok b
  | integer n => .ok (n ≠ 0)
  | floating x => .ok !x.isZero
  | text s => match answerOf? (LowerCase.lower s) with
    | some b => .ok b
    | none => .error (.text (LowerCase.lower s), .flag)

/-- The greatest integer of 64 bits. -/
def maxNatural : Nat := Nat.pow 2 64 - 1

/-- The value as an integer that is not negative: fractions are rounded, and floating-point numbers
that are too small or too great give the least or the greatest one. -/
def asNatural : SettingValue → Except (Mismatch × SettingKind) Nat
  | flag b => .ok b.toNat
  | integer n => if 0 ≤ n then .ok n.toNat else .error (.integer n, .natural)
  | floating x => .ok (x.clamped maxNatural)
  | text s => match answerOf? (LowerCase.lower s) with
    | some b => .ok b.toNat
    | none => .error (.text s, .integer)

end SettingValue

end BusRelay
