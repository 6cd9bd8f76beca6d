import BusRelay.Broker.SharedKey
/-!
# Where tokens come from

A token is given, signed with a key, or asked for at the directory in the name of a principal.
-/

namespace BusRelay

/-- Who asks the directory for tokens. -/
structure Principal where
  tenant : String
  client : String
  secret : String
  deriving DecidableEq

/-- The principal in a diagnostic does not show its secret. -/
def Principal.diagnostic (p : Principal) : String :=
  Quoted.record "ServicePrincipal"
    [("tenant_id", Quoted.quote p.tenant), ("client_id", Quoted.quote p.client)] false

/-- A source of tokens. -/
inductive TokenSource where
  | ready (token : String)
  | key (key : SharedKey)
  | directory (principal : Principal)
  deriving DecidableEq

/-- A given token in a diagnostic does not show. -/
def readyTokenDiagnostic : String := Quoted.record "StaticTokenProvider" [] false

/-- A source of tokens in a diagnostic: that of what it has its tokens from. -/
def TokenSource.diagnostic : TokenSource → String
  | ready _ => readyTokenDiagnostic
  | key k => k.diagnostic
  | directory p => p.diagnostic

end BusRelay
