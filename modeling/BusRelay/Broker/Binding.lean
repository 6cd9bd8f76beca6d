import BusRelay.Broker.ConnectionString
import BusRelay.Log.Record
import BusRelay.Resource.Entity
/-!
# Binding to a namespace

There are two ways to be let in: a shared key or signature, and a principal of the directory. They
are tried in this order and the first one that can be set up is taken. A key that is configured goes
before any connection string.
-/

namespace BusRelay

/-- What is known to be let in with. An empty text counts as none. -/
structure Credentials where
  keyName : Option String := none
  keyValue : Option String := none
  connectionString : Option String := none
  tenant : Option String := none
  client : Option String := none
  secret : Option String := none
  deriving DecidableEq

namespace Credentials

/-- A text that is not empty. -/
def filled (s : Option String) : Option String := s.filter (· ≠ "")

/-- A text that a diagnostic does not show. -/
def redacted (s : Option String) : String :=
  Quoted.optional (s.map fun _ => Quoted.quote "<redacted>")

/-- The credentials in a diagnostic show no secret. -/
def diagnostic (c : Credentials) : String :=
  Quoted.record "Credentials"
    [("key_name", Quoted.optional (c.keyName.map Quoted.quote)),
      ("key_value", redacted c.keyValue),
      ("connection_string", redacted c.connectionString),
      ("tenant_id", Quoted.optional (c.tenant.map Quoted.quote)),
      ("client_id", Quoted.optional (c.client.map Quoted.quote)),
      ("client_secret", redacted c.secret)] true

end Credentials

/-- A way to be let in. -/
inductive AccessMethod where
  | sharedAccess
  | principal
  deriving DecidableEq, Repr

namespace AccessMethod

def name : AccessMethod → String
  | sharedAccess => "SAS"
  | principal => "AAD"

def diagnostic : AccessMethod → String
  | sharedAccess => "SharedAccessSignature"
  | principal => "ServicePrincipal"

end AccessMethod

/-- A namespace and the tokens for it. -/
structure Binding where
  method : AccessMethod
  /-- The root of the namespace. -/
  endpoint : Url
  tokens : TokenSource

namespace Binding

/-- The binding in a diagnostic does not show its tokens. -/
def diagnostic (b : Binding) : String :=
  Quoted.record "Binding"
    [("method", b.method.diagnostic), ("endpoint", Quoted.quote b.endpoint.text)] false

/-- The connection string to be used, composed from the key if there is one. -/
def connectionText? (e : Entity) (c : Credentials) : Option String :=
  let name := Credentials.filled c.keyName
  let value := Credentials.filled c.keyValue
  if name.isSome ∨ value.isSome then
    some (ConnectionString.compose e.space e.path.text (name.getD "") (value.getD ""))
  else Credentials.filled c.connectionString

/-- The binding by a shared key or signature, or the reason why there is none. -/
def bySharedAccess (e : Entity) (c : Credentials) : Except String Binding :=
  match connectionText? e c with
  | none => .error "no connection string or shared access key configured"
  | some text => match ConnectionString.parse text with
    | .ok s => .ok ⟨.sharedAccess, s.endpoint, s.tokens⟩
    | .error fault => .error fault.message

/-- A setting that has to be there. -/
def needed (what : String) (s : Option String) : Except String String :=
  match Credentials.filled s with
  | some s => .ok s
  | none => .error (what ++ " not set")

/-- The binding by a principal, or the reason why there is none. -/
def byPrincipal (e : Entity) (c : Credentials) : Except String Binding := do
  let tenant ← needed "tenant ID" c.tenant
  let client ← needed "client ID" c.client
  let secret ← needed "client secret" c.secret
  match Url.parse s!"https://{e.space}.{ConnectionString.domain}/" with
  | .ok endpoint => return ⟨.principal, endpoint, .directory ⟨tenant, client, secret⟩⟩
  | .error fault => throw ("invalid namespace endpoint: " ++ fault.message)

/-- A way that could not be set up, and why. -/
structure Attempt where
  method : AccessMethod
  reason : String
  deriving DecidableEq, Repr

/-- The message of attempts that all failed. -/
def attemptsMessage (attempts : List Attempt) : String :=
  "no usable authentication method (" ++
    ", ".intercalate (attempts.map fun a => s!"{a.method.name} error: {a.reason}") ++ ")"

def boundRecord (b : Binding) : Log.Record :=
  { level := .info, target := "listener::auth", message := "authenticating to Service Bus",
    fields := [("method", .text b.method.name), ("endpoint", .text b.endpoint.text)] }

def unavailableRecord (a : Attempt) : Log.Record :=
  { level := .debug, target := "listener::auth", message := "authentication method unavailable",
    fields := [("method", .text a.method.name), ("reason", .text a.reason)] }

/-- The first binding that can be set up. -/
def firstOf : List (AccessMethod × Except String Binding) → Except (List Attempt) Binding
  | [] => .error []
  | (_, .ok b) :: _ => .ok b
  | (method, .error reason) :: rest => match firstOf rest with
    | .ok b => .ok b
    | .error attempts => .error (⟨method, reason⟩ :: attempts)

/-- What is recorded on the way to the first binding. -/
def recordsOf : List (AccessMethod × Except String Binding) → List Log.Record
  | [] => []
  | (_, .ok b) :: _ => [boundRecord b]
  | (method, .error reason) :: rest => unavailableRecord ⟨method, reason⟩ :: recordsOf rest

/-- The ways to an entity, in order. -/
def ways (e : Entity) (c : Credentials) : List (AccessMethod × Except String Binding) :=
  [(.sharedAccess, bySharedAccess e c), (.principal, byPrincipal e c)]

/-- Binds to the namespace of an entity. -/
def bind (e : Entity) (c : Credentials) : Except (List Attempt) Binding := firstOf (ways e c)

/-- What is recorded when binding. -/
def records (e : Entity) (c : Credentials) : List Log.Record := recordsOf (ways e c)

end Binding

end BusRelay
