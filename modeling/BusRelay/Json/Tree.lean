import BusRelay.Json.Fault
import BusRelay.Json.Printer
import BusRelay.Text.Quoted
/-!
# Located JSON

A document as it was read: values with their offsets, members in the order of the text, and the place
where the text breaks off, if it does. What a fault hides is decided by the reader of a tree: whoever
wants a text and finds a list reports the list, even if the text breaks off inside it.
-/

namespace BusRelay.Json

/-- A located value. `stop` is the offset after a value, `start` the one before it. -/
inductive Tree where
  | null (stop : Nat)
  | bool (value : Bool) (stop : Nat)
  | number (value : Number) (stop : Nat)
  | string (value : String) (stop : Nat)
  /-- Items, and the offset after the list or the fault that cuts it short. -/
  | array (start : Nat) (items : List Tree) (stop : Except Fault Nat)
  /-- Members with the offset at which their names are reported, and the offset after the object or
  the fault. -/
  | object (start : Nat) (members : List (String × Nat × Tree)) (stop : Except Fault Nat)
  /-- No value: the text breaks off here. -/
  | broken (fault : Fault)

namespace Tree

mutual

/-- The value, with members as they stand in the text, or the fault that cuts it short. -/
def toJson : Tree → Except Fault Json
  | null _ => .ok .null
  | bool value _ => .ok (.bool value)
  | number value _ => .ok (.number value)
  | string value _ => .ok (.string value)
  | array _ items stop => do
    let items ← itemsToJson items
    discard stop
    return .array items
  | object _ members stop => do
    let members ← membersToJson members
    discard stop
    return .object members
  | broken fault => .error fault

/-- `toJson` on items. -/
def itemsToJson : List Tree → Except Fault (List Json)
  | [] => .ok []
  | item :: rest => do return (← toJson item) :: (← itemsToJson rest)

/-- `toJson` on the values of members. -/
def membersToJson : List (String × Nat × Tree) → Except Fault (List (String × Json))
  | [] => .ok []
  | (name, _, value) :: rest => do return (name, ← toJson value) :: (← membersToJson rest)

end

/-- How a value that was not expected is called. -/
def description : Tree → String
  | null _ => "null"
  | bool value _ => "boolean `" ++ (if value then "true" else "false") ++ "`"
  | number (.integer n) _ => "integer `" ++ integerText n ++ "`"
  | number (.float x) _ => "floating point `" ++ WrittenNumber.json x ++ "`"
  | string value _ => "string " ++ Quoted.quote value
  | array .. => "sequence"
  | object .. => "map"
  | broken _ => "nothing"

/-- Where a value that was not expected is reported. -/
def reportedAt : Tree → Option Nat
  | null stop | bool _ stop | number _ stop | string _ stop => some stop
  | array start .. | object start .. => some start
  | broken fault => fault.offset

/-- The fault of a value of another type than expected; a broken value reports its own. -/
def unexpected (tree : Tree) (expected : String) : Fault :=
  match tree with
  | broken fault => fault
  | _ => ⟨.invalidType tree.description expected, tree.reportedAt⟩

/-- The text that a value is. -/
def asText : Tree → Except Fault String
  | string value _ => .ok value
  | tree => .error (tree.unexpected "a string")

/-- What a reader makes of a value that may be null. -/
def nullOr {α : Type} (read : Tree → Except Fault α) : Tree → Except Fault (Option α)
  | null _ => .ok none
  | tree => some <$> read tree

end Tree

end BusRelay.Json
