/-!
# Log records

What the program logs, as values: a level, the module that speaks, a message with fields, and the
spans that enclose it, outermost first.
-/

namespace BusRelay.Log

/-- How important a record is, from the least to the most. -/
inductive Level where
  | trace
  | debug
  | info
  | warn
  | error
  deriving DecidableEq, Repr

namespace Level

def name : Level → String
  | trace => "TRACE"
  | debug => "DEBUG"
  | info => "INFO"
  | warn => "WARN"
  | error => "ERROR"

/-- The place of a level in the order of importance. -/
def rank : Level → Nat
  | trace => 0
  | debug => 1
  | info => 2
  | warn => 3
  | error => 4

end Level

/-- The value of a field. -/
inductive Field where
  | text (value : String)
  | number (value : Nat)
  deriving DecidableEq, Repr

/-- A part of the work that records belong to. -/
structure Span where
  /-- The module that does the work. -/
  target : String
  name : String
  fields : List (String × Field) := []
  deriving DecidableEq, Repr

/-- A log record. -/
structure Record where
  level : Level
  target : String
  message : String
  fields : List (String × Field) := []
  spans : List Span := []
  deriving DecidableEq, Repr

/-- The record as part of more work. -/
def Record.within (span : Span) (r : Record) : Record := { r with spans := span :: r.spans }

end BusRelay.Log
