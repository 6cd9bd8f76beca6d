import BusRelay.Json.Printer
import BusRelay.Text.Quoted
/-!
# JSON in diagnostics

A value with the name of its type, as it stands in a diagnostic.
-/

namespace BusRelay.Json

mutual

/-- The value in a diagnostic. -/
def diagnostic : Json → String
  | null => "Null"
  | bool value => "Bool(" ++ (if value then "true" else "false") ++ ")"
  | number n => "Number(" ++ n.text ++ ")"
  | string s => "String(" ++ Quoted.quote s ++ ")"
  | array items => "Array " ++ Quoted.brackets (itemDiagnostics items)
  | object members => "Object " ++ Quoted.braces (memberDiagnostics members)

/-- `diagnostic` on items. -/
def itemDiagnostics : List Json → List String
  | [] => []
  | item :: rest => diagnostic item :: itemDiagnostics rest

/-- `diagnostic` on members. -/
def memberDiagnostics : List (String × Json) → List (String × String)
  | [] => []
  | (name, value) :: rest => (Quoted.quote name, diagnostic value) :: memberDiagnostics rest

end

end BusRelay.Json
