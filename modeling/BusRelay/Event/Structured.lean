import BusRelay.Codec.Base64
import BusRelay.Event.Basic
import BusRelay.Json.Reader
import BusRelay.Time.Rfc3339
/-!
# Events in JSON

An event as one JSON object. The members that an event has of itself are read with their types; all
others are extensions. What is left out, or null where that is allowed, is filled in by whoever
received the object.
-/

namespace BusRelay

open Json (Tree Fault)

/-- One member of the object of an event. -/
inductive Attribute where
  | specVersion (text : String)
  | id (text : String)
  | source (text : Option String)
  | kind (text : String)
  | time (instant : Option Instant)
  | subject (text : Option String)
  | schema (text : Option String)
  | contentType (text : Option String)
  | data (value : Option Json)
  | encodedData (text : Option String)
  | extension (name : String) (value : Json)

/-- An event as it was read. -/
structure StructuredEvent where
  specVersion : String
  id : String
  source : Option String
  kind : String
  time : Option Instant
  subject : Option String
  schema : Option String
  contentType : Option String
  data : Option Json
  /-- A binary payload as Base64 text. -/
  encodedData : Option String
  extensions : Dict Json

namespace StructuredEvent

/-- The members that are no extensions. -/
def coreNames : List String :=
  ["specversion", "id", "source", "type", "time", "subject", "dataschema", "datacontenttype",
    "data", "data_base64"]

/-- The instant that a value is. -/
def readInstant : Tree → Except Fault Instant
  | .string text stop => match Rfc3339.read text with
    | .ok instant => .ok instant
    | .error fault => .error ⟨.refused fault.message, some stop⟩
  | tree => .error (tree.unexpected "an RFC 3339 formatted date and time string")

/-- The value that a tree is, whatever its type. -/
def readAny (tree : Tree) : Except Fault Json := Json.canonical <$> tree.toJson

/-- The member of this name. -/
def readAttribute (name : String) (value : Tree) : Except Fault Attribute :=
  match name with
  | "specversion" => .specVersion <$> value.asText
  | "id" => .id <$> value.asText
  | "source" => .source <$> value.nullOr Tree.asText
  | "type" => .kind <$> value.asText
  | "time" => .time <$> value.nullOr readInstant
  | "subject" => .subject <$> value.nullOr Tree.asText
  | "dataschema" => .schema <$> value.nullOr Tree.asText
  | "datacontenttype" => .contentType <$> value.nullOr Tree.asText
  | "data" => .data <$> value.nullOr readAny
  | "data_base64" => .encodedData <$> value.nullOr Tree.asText
  | _ => .extension name <$> readAny value

/-- The members in order. Only extensions may be repeated. -/
def readAttributes (seen : List String) :
    List (String × Nat × Tree) → Except Fault (List Attribute)
  | [] => .ok []
  | (name, named, value) :: rest => do
    if name ∈ coreNames ∧ name ∈ seen then throw ⟨.repeatedMember name, some named⟩
    return (← readAttribute name value) :: (← readAttributes (name :: seen) rest)

/-- The attribute that has to be there. -/
def required {α : Type} (name : String) (stop : Nat) : Option α → Except Fault α
  | some value => .ok value
  | none => .error ⟨.missingMember name, some stop⟩

/-- The event of these members. -/
def ofAttributes (attributes : List Attribute) (stop : Nat) : Except Fault StructuredEvent := do
  let specVersion ← required "specversion" stop <|
    attributes.findSome? fun | .specVersion text => some text | _ => none
  let id ← required "id" stop <| attributes.findSome? fun | .id text => some text | _ => none
  let kind ← required "type" stop <| attributes.findSome? fun | .kind text => some text | _ => none
  return {
    specVersion, id, kind
    source := attributes.findSome? fun | .source text => text | _ => none
    time := attributes.findSome? fun | .time instant => instant | _ => none
    subject := attributes.findSome? fun | .subject text => text | _ => none
    schema := attributes.findSome? fun | .schema text => text | _ => none
    contentType := attributes.findSome? fun | .contentType text => text | _ => none
    data := attributes.findSome? fun | .data value => value | _ => none
    encodedData := attributes.findSome? fun | .encodedData text => text | _ => none
    extensions := Dict.ofList <|
      attributes.filterMap fun | .extension name value => some (name, value) | _ => none }

/-- The event that a value is. -/
def ofTree : Tree → Except Fault StructuredEvent
  | .object _ members stop => do
    let attributes ← readAttributes [] members
    ofAttributes attributes (← stop)
  | tree => .error (tree.unexpected "struct CloudEventJson")

/-- The event that a document is. -/
def decode (text : Utf8.Bytes) : Except Fault StructuredEvent := Json.decodeWith ofTree text

/-- Why an event that was read is none. -/
inductive ConversionFault where
  | twoPayloads
  | notBase64 (fault : Base64.Fault)
  /-- An extension that is a list, an object or null. -/
  | notScalar (name : String)
  deriving DecidableEq, Repr

def ConversionFault.message : ConversionFault → String
  | twoPayloads => "event carries both \"data\" and \"data_base64\""
  | notBase64 fault => "decoding \"data_base64\": " ++ fault.message
  | notScalar name => s!"extension attribute {Quoted.quote name} is not a scalar"

/-- The payload, from whichever of the two members has it. -/
def payload (e : StructuredEvent) : Except ConversionFault (Option Payload) :=
  match e.data, e.encodedData with
  | some _, some _ => .error .twoPayloads
  | some value, none => .ok (some (.json value))
  | none, some text => match Base64.decode (Utf8.bytes text) with
    | .ok octets => .ok (some (.binary octets))
    | .error fault => .error (.notBase64 fault)
  | none, none => .ok none

/-- The text of a scalar. -/
def scalarText? : Json → Option String
  | .string text => some text
  | .number n => some n.text
  | .bool value => some (if value then "true" else "false")
  | _ => none

/-- Extensions as texts. -/
def scalarEntries : Entries Json → Except ConversionFault (Entries String)
  | [] => .ok []
  | (name, value) :: rest => match scalarText? value with
    | none => .error (.notScalar name)
    | some text => (scalarEntries rest).map fun entries => (name, text) :: entries

/-- The event, with a source and a time for one that brings none. -/
def toEvent (e : StructuredEvent) (source : String) (time : Instant) :
    Except ConversionFault Event := do
  let payload ← e.payload
  let extensions ← scalarEntries e.extensions.entries
  return {
    specVersion := e.specVersion
    id := e.id
    source := e.source.getD source
    kind := e.kind
    time := e.time.getD time
    subject := e.subject
    schema := e.schema
    contentType := e.contentType
    payload
    extensions := Dict.ofList extensions }

end StructuredEvent

end BusRelay
