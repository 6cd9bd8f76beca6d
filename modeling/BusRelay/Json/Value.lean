import BusRelay.Decimal.Binary64
import BusRelay.Dict
/-!
# JSON values

An object is the list of its members. `canonical` puts members in ascending order and keeps the last
one of each name; documents are read into canonical values.
-/

namespace BusRelay

/-- A number: an integer of at most 64 bits as it is written, or a binary number. -/
inductive Json.Number where
  | integer (value : Int)
  | float (value : Binary64)
  deriving DecidableEq, Repr

/-- A JSON value. -/
inductive Json where
  | null
  | bool (value : Bool)
  | number (value : Json.Number)
  | string (value : String)
  | array (items : List Json)
  | object (members : List (String × Json))
  deriving Inhabited, Repr

namespace Json

mutual

/-- The value with the members of every object in ascending order, the last one of each name. -/
def canonical : Json → Json
  | array items => array (canonicalItems items)
  | object members => object (Entries.sorted (canonicalMembers members))
  | value => value

/-- `canonical` on items. -/
def canonicalItems : List Json → List Json
  | [] => []
  | item :: rest => canonical item :: canonicalItems rest

/-- `canonical` on the values of members. -/
def canonicalMembers : List (String × Json) → List (String × Json)
  | [] => []
  | (name, value) :: rest => (name, canonical value) :: canonicalMembers rest

end

/-- A value from the range of unsigned 64-bit integers. -/
def natural (n : Nat) : Json := number (.integer n)

/-- A text, or null if there is none. -/
def optionalText : Option String → Json
  | none => null
  | some s => string s

end Json

end BusRelay
