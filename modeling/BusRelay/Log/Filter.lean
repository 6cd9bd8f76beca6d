import BusRelay.Log.Directive
import BusRelay.Text.Fields
/-!
# Log filters

A filter is a list of directives. Of those about records the one that asks for most decides, of equals
the last one, and a record that none is about is not let through. Directives about spans let through
more inside the spans that they name. A span that is not let through itself does not show.
-/

namespace BusRelay.Log

/-- A filter. -/
structure Filter where
  directives : List Directive

namespace Filter

/-- The pieces of a text that directives are written in. -/
def pieces (s : String) : List String :=
  ((Fields.split ',' s.toList).filter (· ≠ [])).map String.ofList

/-- The filter that a text writes, if all of its directives can be read. -/
def read? (s : String) : Option Filter :=
  ((pieces s).mapM fun piece => (Directive.read piece).toOption).map Filter.mk

/-- What is said about a piece that is no directive. -/
def notice (piece : String) (fault : DirectiveFault) : String :=
  "ignoring \x60" ++ piece ++ "\x60: " ++ fault.message

/-- What is said about the pieces of a text that are no directives. -/
def notices (s : String) : List String :=
  (pieces s).filterMap fun piece => match Directive.read piece with
    | .ok _ => none
    | .error fault => some (notice piece fault)

/-- The filter of the directives that can be read. Without any, errors are let through. -/
def readSome (s : String) : Filter :=
  match (pieces s).filterMap fun piece => (Directive.read piece).toOption with
  | [] => ⟨[{ threshold := .downTo .error }]⟩
  | directives => ⟨directives⟩

/-- The directive that asks for most, of equals the last one. -/
def heaviest? (directives : List Directive) : Option Directive :=
  directives.foldl (fun best d => match best with
    | some e => if d.outweighs e then some d else some e
    | none => some d) none

/-- Whether the directives about records let something of a target and a level through. Without
fields it is a span. -/
def admitsPlainly (f : Filter) (target : String) (level : Level) (fields : Option (List String)) :
    Bool :=
  let about := f.directives.filter fun d => d.isOfRecords && d.matchesTarget target &&
    fields.all fun names => d.fields.all fun field => names.contains field.1
  (heaviest? about).any (·.threshold.admits level)

/-- The text of a field. -/
def fieldText : Field → String
  | .text value => value
  | .number value => toString value

/-- Whether a span has a field. -/
def hasField (span : Span) (field : String × Option String) : Bool :=
  span.fields.any fun (name, _) => name = field.1

/-- Whether a span has a field with the value that it has to have, if any. -/
def hasValue (span : Span) (field : String × Option String) : Bool :=
  span.fields.any fun (name, value) => name = field.1 && field.2.all (· = fieldText value)

/-- The directives that are about a span. -/
def aboutSpan (f : Filter) (span : Span) : List Directive :=
  f.directives.filter fun d => d.isOfSpans && d.matchesTarget span.target &&
    d.span.all (· = span.name) && d.fields.all (hasField span)

/-- The thresholds inside a span. -/
def thresholds (f : Filter) (span : Span) : List Threshold :=
  ((f.aboutSpan span).filter fun d => d.fields.all (hasValue span)).map (·.threshold)

/-- The level of spans. -/
def spanLevel : Level := .info

/-- Whether a span shows inside of others that have these thresholds. -/
def showsSpan (f : Filter) (scope : List Threshold) (span : Span) : Bool :=
  !(f.aboutSpan span).isEmpty || scope.any (·.admits spanLevel) ||
    f.admitsPlainly span.target spanLevel none

/-- The spans that show, and the thresholds inside them. -/
def visible (f : Filter) : (scope : List Threshold) → List Span → List Span × List Threshold
  | scope, [] => ([], scope)
  | scope, span :: rest =>
    if f.showsSpan scope span then
      let (shown, scope) := f.visible (scope ++ f.thresholds span) rest
      (span :: shown, scope)
    else f.visible scope rest

/-- What is let through of a record. -/
def passed? (f : Filter) (r : Record) : Option Record :=
  let (spans, scope) := f.visible [] r.spans
  if scope.any (·.admits r.level) ||
      f.admitsPlainly r.target r.level (some ("message" :: r.fields.map Prod.fst)) then
    some { r with spans }
  else none

/-- What is let through of records. -/
def passed (f : Filter) (records : List Record) : List Record := records.filterMap f.passed?

end Filter

end BusRelay.Log
