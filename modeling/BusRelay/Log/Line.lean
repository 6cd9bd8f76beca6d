import BusRelay.Json.Printer
import BusRelay.Log.Record
/-!
# Log lines

A record as one line of JSON, with the innermost span by itself and in the row of all spans.
-/

namespace BusRelay.Log

/-- The value of a field. -/
def Field.json : Field → Json
  | text value => .string value
  | number value => .natural value

/-- Fields as members. -/
def fieldsJson (fields : List (String × Field)) : List (String × Json) :=
  fields.map fun (name, value) => (name, value.json)

/-- A span with its fields. -/
def Span.json (s : Span) : Json := .object (fieldsJson s.fields ++ [("name", .string s.name)])

/-- The record as a value. -/
def Record.json (r : Record) : Json :=
  .object <|
    [("level", .string r.level.name),
      ("fields", .object (("message", .string r.message) :: fieldsJson r.fields)),
      ("target", .string r.target)] ++
    (r.spans.getLast?.map fun s => ("span", s.json)).toList ++
    if r.spans = [] then [] else [("spans", .array (r.spans.map Span.json))]

/-- The record as a line. -/
def Record.line (r : Record) : String := r.json.text

end BusRelay.Log
