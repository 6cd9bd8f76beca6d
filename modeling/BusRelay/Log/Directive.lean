import BusRelay.Log.Record
import BusRelay.Text.Alphanumeric
import BusRelay.Text.Blank
/-!
# Log directives

A directive says how much is logged: `level` of everything, `target=level` of what comes from targets
that start like this, and `target[span]=level` of what belongs to a span, which may also be told by
its fields, with a field and its value in braces behind the name. Without a level a directive lets everything through.
-/

namespace BusRelay.Log

/-- How much is let through: nothing, or everything down to a level. -/
inductive Threshold where
  | off
  | downTo (level : Level)
  deriving DecidableEq, Repr

namespace Threshold

def admits : Threshold → Level → Bool
  | off, _ => false
  | downTo least, level => least.rank ≤ level.rank

/-- The thresholds in the order of their numbers, with their names. -/
def names : List (String × Threshold) :=
  [("off", off), ("error", downTo .error), ("warn", downTo .warn), ("info", downTo .info),
    ("debug", downTo .debug), ("trace", downTo .trace)]

/-- The number that digits write, with a plus sign or without a sign. -/
def number? (s : List Char) : Option Nat :=
  let digits := match s with
    | '+' :: rest => rest
    | s => s
  if digits ≠ [] ∧ digits.all Char.isDigit then some (Nat.ofDigitChars 10 digits 0) else none

/-- The threshold of a number, or of a name in any letter case. -/
def read? (s : List Char) : Option Threshold :=
  match number? s with
  | some n => names[n]?.map Prod.snd
  | none => (names.find? fun t => t.1.toList = s.map Char.toLower).map Prod.snd

end Threshold

/-- Why a text is no directive. -/
inductive DirectiveFault where
  | form
  | level
  deriving DecidableEq, Repr

def DirectiveFault.message : DirectiveFault → String
  | form => "invalid filter directive"
  | level => "error parsing level filter: expected one of \"off\", \"error\", \"warn\", \"info\", " ++
      "\"debug\", \"trace\", or a number 0-5"

/-- A directive. -/
structure Directive where
  /-- How targets have to start. -/
  target : Option String := none
  /-- The name that the span has to have. -/
  span : Option String := none
  /-- The fields that there have to be, some with the value that they have to have. -/
  fields : List (String × Option String) := []
  threshold : Threshold := .downTo .trace
  deriving DecidableEq, Repr

namespace Directive

/-- The threshold behind an equals sign. -/
def withThreshold (d : Directive) : List Char → Except DirectiveFault Directive
  | [] => .ok d
  | s => match Threshold.read? s with
    | some threshold => .ok { d with threshold }
    | none => .error .level

/-- What follows the span. -/
def behindSpan (d : Directive) : List Char → Except DirectiveFault Directive
  | [] => .ok d
  | '=' :: rest => d.withThreshold rest
  | _ => .error .form

/-- A field, with a value or without one. -/
def readField (s : List Char) : String × Option String :=
  let value := match s.dropWhile (· ≠ '=') with
    | _ :: rest => some (String.ofList (rest.takeWhile (· ≠ '=')))
    | [] => none
  (String.ofList (s.takeWhile (· ≠ '=')), value)

/-- A text, unless it is empty. -/
def filled? (s : List Char) : Option String := if s = [] then none else some (String.ofList s)

/-- What follows the bracket of a span. -/
def inSpan (d : Directive) (s : List Char) : Except DirectiveFault Directive :=
  let name := s.takeWhile fun c => c ≠ ']' ∧ c ≠ '{'
  match s.dropWhile fun c => c ≠ ']' ∧ c ≠ '{' with
  | ']' :: rest => { d with span := some (String.ofList name) }.behindSpan rest
  | '{' :: rest =>
    let field := rest.takeWhile (· ≠ '}')
    match field, rest.dropWhile (· ≠ '}') with
    | _ :: _, '}' :: ']' :: rest =>
      { d with span := filled? name, fields := [readField field] }.behindSpan rest
    | _, _ => .error .form
  | _ => .error .form

/-- Whether a directive can start with a character, other than with the bracket of a span. -/
def isStart (c : Char) : Bool := Alphanumeric.isAlphanumeric c || c = '-' || c = ':' || c = '_'

/-- The directive that characters without blanks around them write. -/
def readTrimmed (s : List Char) : Except DirectiveFault Directive :=
  match s with
  | [] => .error .form
  | '[' :: rest => inSpan {} rest
  | c :: _ =>
    if isStart c then
      let head := s.takeWhile fun c => c ≠ '=' ∧ c ≠ '['
      match s.dropWhile fun c => c ≠ '=' ∧ c ≠ '[' with
      | [] => match Threshold.read? s with
        | some threshold => .ok { threshold }
        | none => .ok { target := some (String.ofList s) }
      | '=' :: rest => { target := some (String.ofList head) : Directive }.withThreshold rest
      | _ :: rest => inSpan { target := some (String.ofList head) } rest
    else .error .form

/-- The directive that a text writes. -/
def read (s : String) : Except DirectiveFault Directive := readTrimmed (Blank.trim s.toList)

/-- Whether a directive is about spans. -/
def isOfSpans (d : Directive) : Bool := d.span.isSome || !d.fields.isEmpty

/-- Whether a directive is about records, wherever they belong to. -/
def isOfRecords (d : Directive) : Bool := d.span.isNone && d.fields.all (·.2.isNone)

/-- Whether a target starts as it has to. -/
def matchesTarget (d : Directive) (target : String) : Bool :=
  d.target.all fun start => start.toList.isPrefixOf target.toList

/-- How much a directive asks for: the length of its target, then the number of its fields. -/
def weight (d : Directive) : Nat × Nat :=
  ((d.target.map fun t => t.utf8ByteSize + 1).getD 0, d.fields.length)

/-- Whether a directive asks for at least as much as another one. -/
def outweighs (d e : Directive) : Bool :=
  e.weight.1 < d.weight.1 || (e.weight.1 = d.weight.1 && e.weight.2 ≤ d.weight.2)

end Directive

end BusRelay.Log
