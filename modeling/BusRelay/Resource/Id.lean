import BusRelay.Json.Reader
import BusRelay.Resource.Fault
import BusRelay.Text.Fields
/-!
# Resource IDs

The path of a resource of a namespace: a slash, then ten segments, or twelve if a child of the
resource is meant. Four segments are keywords, which are read in any letter case and written in one.
-/

namespace BusRelay

/-- A resource of a namespace. -/
structure ResourceId where
  subscription : String
  group : String
  provider : String
  space : String
  kind : String
  name : String
  /-- The kind and the name of a child of the resource. -/
  child : Option (String × String)
  deriving DecidableEq, Repr

namespace ResourceId

/-- Whether two texts differ in the case of ASCII letters only. -/
def sameLetters (a b : String) : Bool := a.toList.map Char.toLower = b.toList.map Char.toLower

/-- Refuses a segment that is another word than expected. -/
def checkKeyword (segment expected : String) (position : Nat) : Except ResourceFault Unit :=
  if sameLetters segment expected then .ok () else .error (.keyword expected position)

/-- The resource of ten segments and an optional child. -/
def ofSegments (segments : List String) : Except ResourceFault ResourceId :=
  match segments with
  | k₁ :: subscription :: k₂ :: group :: k₃ :: provider :: k₄ :: space :: kind :: name :: rest => do
    let child ← match rest with
      | [] => pure none
      | [childKind, childName] => pure (some (childKind, childName))
      | _ => throw .segmentCount
    checkKeyword k₁ "subscriptions" 1
    checkKeyword k₂ "resourceGroups" 3
    checkKeyword k₃ "providers" 5
    checkKeyword k₄ "namespaces" 7
    return { subscription, group, provider, space, kind, name, child }
  | _ => throw .segmentCount

/-- The segments of a text behind its leading slash. -/
def segments? (s : String) : Except ResourceFault (List String) :=
  match s.toList with
  | '/' :: rest =>
    let segments := (Fields.split '/' rest).map String.ofList
    if "" ∈ segments then .error .emptySegment else .ok segments
  | _ => .error .noLeadingSlash

/-- The resource that a text names. -/
def parse (s : String) : Except SettingFault ResourceId :=
  match segments? s >>= ofSegments with
  | .ok id => .ok id
  | .error fault => .error (.malformedResource s fault)

/-- The segments of a resource, keywords included. -/
def segments (id : ResourceId) : List String :=
  ["subscriptions", id.subscription, "resourceGroups", id.group, "providers", id.provider,
    "namespaces", id.space, id.kind, id.name] ++
  match id.child with
  | some (kind, name) => [kind, name]
  | none => []

/-- The resource as it is written. -/
def text (id : ResourceId) : String := String.join (id.segments.map ("/" ++ ·))

/-- The resource as a JSON text. -/
def encode (id : ResourceId) : String := (Json.string id.text).text

/-- Reads a resource from a JSON text. -/
def decode (text : Utf8.Bytes) : Except Json.Fault ResourceId :=
  Json.decodeWith (fun tree => do
    match parse (← tree.asText) with
    | .ok id => return id
    | .error fault => throw ⟨.refused fault.message, none⟩) text

end ResourceId

end BusRelay
