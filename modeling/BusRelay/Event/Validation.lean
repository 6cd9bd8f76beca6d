import BusRelay.Event.Basic
import BusRelay.Text.Quoted
import BusRelay.Url.Parser
/-!
# The rules for attributes

Every attribute has a rule of its own, and an event is checked against all of them at once. The
violations are kept by name, those of extensions beside those of attributes. No violation takes the
place of another: an extension that is called like an attribute of the event has a valid name.
-/

namespace BusRelay

/-- Why attributes break their rules. -/
abbrev Violations := Dict String

/-- The violations in one text. -/
def Violations.message (v : Violations) : String :=
  "validation error: " ++ "; ".intercalate (v.entries.map fun (name, reason) => s!"{name}: {reason}")

/-- The names of the attributes, ascending. -/
def Violations.attributes (v : Violations) : List String := v.entries.map Prod.fst

namespace Event

def maxExtensionLength : Nat := 20

/-- A lowercase letter or a digit. -/
def isExtensionChar (c : Char) : Bool := ('a' ≤ c && c ≤ 'z') || ('0' ≤ c && c ≤ '9')

/-- Whether an extension may have this name. -/
def isExtensionName (name : String) : Bool :=
  name ≠ "" && name.toList.length ≤ maxExtensionLength && name.toList.all isExtensionChar

/-- The rule of a text that may be left out but not be empty. -/
def emptyTextReason : Option String → Option String
  | some "" => some "if present, MUST be a non-empty string"
  | _ => none

/-- The rule of a schema. -/
def schemaReason : Option String → Option String
  | none => none
  | some schema => match Url.parse schema with
    | .ok _ => none
    | .error fault => some ("if present, MUST be an absolute URI: " ++ fault.message)

/-- The attributes of the event itself, each with the reason why it breaks its rule, if it does. -/
def coreReasons (e : Event) : List (String × Option String) :=
  [("specversion",
      if e.specVersion = formatVersion then none
      else some ("expected " ++ Quoted.quote formatVersion)),
    ("id", if e.id = "" then some "MUST be a non-empty string" else none),
    ("source", if e.source = "" then some "MUST be a non-empty URI-reference" else none),
    ("type", if e.kind = "" then some "MUST be a non-empty string" else none),
    ("subject", emptyTextReason e.subject),
    ("datacontenttype", emptyTextReason e.contentType),
    ("dataschema", schemaReason e.schema)]

def extensionNameReason : String :=
  "extension attribute names MUST be lowercase alphanumeric, at most 20 characters"

/-- The extensions, each with the reason why its name breaks the rule, if it does. -/
def extensionReasons (e : Event) : List (String × Option String) :=
  e.extensions.entries.map fun (name, _) =>
    (name, if isExtensionName name then none else some extensionNameReason)

/-- What an event violates. -/
def violations (e : Event) : Violations :=
  Dict.ofList <| (e.coreReasons ++ e.extensionReasons).filterMap fun (name, reason) =>
    reason.map (name, ·)

/-- Refuses an event that breaks a rule. -/
def validate (e : Event) : Except Violations Unit :=
  if e.violations.isEmpty then .ok () else .error e.violations

end Event

end BusRelay
