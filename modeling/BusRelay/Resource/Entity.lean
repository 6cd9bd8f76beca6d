import BusRelay.Identifier
import BusRelay.Resource.Id
/-!
# Entities

The queues and subscriptions that messages are received from. An entity keeps the text that it was
named with, which is the source of the events that come from it.
-/

namespace BusRelay

/-- A queue, or a subscription of a topic. -/
inductive EntityKind where
  | queue (name : String)
  | subscription (topic name : String)
  deriving DecidableEq, Repr

/-- Where an entity is below the endpoint of its namespace. -/
def EntityKind.pathText : EntityKind → String
  | queue name => name
  | subscription topic name => topic ++ "/Subscriptions/" ++ name

/-- The entity that a resource is, if it is one. -/
def ResourceId.entityKind? (id : ResourceId) : Option EntityKind :=
  if id.provider = "Microsoft.ServiceBus" then
    match id.child with
    | none => if id.kind = "queues" then some (.queue id.name) else none
    | some (kind, name) =>
      if id.kind = "topics" ∧ kind = "subscriptions" then some (.subscription id.name name) else none
  else none

/-- An entity to receive messages from. -/
structure Entity where
  /-- The resource ID as it was given. -/
  raw : String
  resource : ResourceId
  kind : EntityKind
  path : EntityPath
  path_eq : path.text = kind.pathText

namespace Entity

/-- The entity of this kind, unless its path were empty. -/
def ofKind? (raw : String) (resource : ResourceId) (kind : EntityKind) : Option Entity :=
  if h : kind.pathText ≠ "" then some ⟨raw, resource, kind, ⟨kind.pathText, h⟩, rfl⟩ else none

/-- The entity that a resource ID names. -/
def parse (raw : String) : Except SettingFault Entity := do
  let resource ← ResourceId.parse raw
  match resource.entityKind?.bind (ofKind? raw resource) with
  | some entity => return entity
  | none => throw (.unsupportedEntity raw)

/-- The name of the namespace. -/
def space (e : Entity) : String := e.resource.space

end Entity

end BusRelay
