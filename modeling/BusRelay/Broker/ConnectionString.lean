import BusRelay.Broker.Token
import BusRelay.Text.Blank
import BusRelay.Text.Fields
import BusRelay.Url.Parser
/-!
# Connection strings

Pieces `Name=value` between semicolons, in any order and with any blanks around them. Names have no
letter case, an unknown one is ignored, and the last piece of a name counts. An empty value is none.
-/

namespace BusRelay

/-- Why a connection string is refused. -/
inductive ConnectionFault where
  | empty
  | malformed (piece : String)
  | missing (name : String)
  | badEndpoint (endpoint reason : String)
  deriving DecidableEq, Repr

def ConnectionFault.message : ConnectionFault → String
  | empty => "connection string is empty"
  | malformed piece => "malformed connection string segment " ++ Quoted.quote piece
  | missing name => "connection string has no " ++ name
  | badEndpoint endpoint reason => s!"invalid endpoint {Quoted.quote endpoint}: {reason}"

/-- How to reach a namespace. -/
structure ConnectionString where
  /-- The root of the namespace. -/
  endpoint : Url
  keyName : Option String
  key : Option String
  /-- A token that is already signed. -/
  signature : Option String
  entityPath : Option String

namespace ConnectionString

/-- A name without letter case, and its value. -/
abbrev Assignment := String × String

/-- The pieces that are not blank. -/
def pieces (s : String) : List (List Char) :=
  ((Fields.split ';' s.toList).map Blank.trim).filter (· ≠ [])

/-- The assignment that a piece is. -/
def assignment (piece : List Char) : Except ConnectionFault Assignment :=
  match Fields.splitOnce '=' piece with
  | some (name, value) => .ok (String.ofList (name.map Char.toLower), String.ofList value)
  | none => .error (.malformed (String.ofList piece))

/-- The value of the last assignment to a name, unless it is empty. -/
def lastValue (name : String) (assignments : List Assignment) : Option String :=
  ((assignments.filter fun a => a.1 = name).getLast?.map Prod.snd).filter (· ≠ "")

/-- The root of the namespace that an endpoint is in. -/
def rootOf (endpoint : String) : Except ConnectionFault Url :=
  let refused (reason : String) := ConnectionFault.badEndpoint endpoint reason
  match Url.parse endpoint with
  | .error fault => .error (refused fault.message)
  | .ok url => match url.hostText? with
    | none => .error (refused "no host")
    | some host => match Url.parse ("https://" ++ host ++ "/") with
      | .error fault => .error (refused fault.message)
      | .ok root => .ok root

/-- The connection string of assignments. -/
def ofAssignments (assignments : List Assignment) : Except ConnectionFault ConnectionString := do
  let value (name : String) := lastValue name assignments
  let endpoint ← match value "endpoint" with
    | some endpoint => rootOf endpoint
    | none => throw (.missing "Endpoint")
  let signature := value "sharedaccesssignature"
  let keyName := value "sharedaccesskeyname"
  let key := value "sharedaccesskey"
  if signature = none then
    if keyName = none then throw (.missing "SharedAccessKeyName")
    if key = none then throw (.missing "SharedAccessKey")
  return { endpoint, keyName, key, signature, entityPath := value "entitypath" }

/-- The connection string that a text is. -/
def parse (s : String) : Except ConnectionFault ConnectionString :=
  if Blank.trim s.toList = [] then .error .empty
  else do ofAssignments (← (pieces s).mapM assignment)

/-- The domain below which namespaces are. -/
def domain : String := "servicebus.windows.net"

/-- The connection string of a key. -/
def compose (space entityPath keyName key : String) : String :=
  s!"Endpoint=sb://{space}.{domain}/;SharedAccessKeyName={keyName};SharedAccessKey={key};" ++
    s!"EntityPath={entityPath}"

/-- The tokens that a connection string gives: the signature if there is one, else those signed with
the key. -/
def tokens (c : ConnectionString) : TokenSource :=
  match c.signature, c.keyName, c.key with
  | some signature, _, _ => .ready signature
  | none, some name, some key => .key ⟨name, key⟩
  | none, _, _ => .ready ""

/-- The connection string in a diagnostic shows neither key nor signature. -/
def diagnostic (c : ConnectionString) : String :=
  Quoted.record "ConnectionString"
    [("endpoint", Quoted.quote c.endpoint.text),
      ("key_name", Quoted.optional (c.keyName.map Quoted.quote)),
      ("entity_path", Quoted.optional (c.entityPath.map Quoted.quote))] false

end ConnectionString

end BusRelay
