import BusRelay.Codec.Base64
import BusRelay.Codec.Form
import BusRelay.Codec.Sha256
import BusRelay.Json.Printer
import BusRelay.Text.Quoted
/-!
# Shared keys

A token for a resource that is signed with a key: the resource, the signature, the second at which the
token expires and the name of the key, as the fields of a form.
-/

namespace BusRelay

open Utf8 (Bytes)

/-- A key with its name. -/
structure SharedKey where
  name : String
  key : String
  deriving DecidableEq

namespace SharedKey

/-- What is signed: the resource as form text and the second of expiry, on lines of their own. -/
def signedText (uri : String) (expiry : Int) : String :=
  Form.encode uri ++ "\n" ++ Json.integerText expiry

/-- The fields of a token. -/
def tokenText (uri signature expiry name : String) : String :=
  "SharedAccessSignature sr=" ++ Form.encode uri ++ "&sig=" ++ signature ++ "&se=" ++ expiry ++
    "&skn=" ++ name

/-- The token that a way to authenticate messages under a key gives. -/
def signWith (mac : (key message : Bytes) → Bytes) (k : SharedKey) (uri : String) (expiry : Int) :
    String :=
  let signature := Base64.encode (mac (Utf8.bytes k.key) (Utf8.bytes (signedText uri expiry)))
  tokenText uri (Form.encode signature) (Json.integerText expiry) k.name

/-- The token of a resource. -/
def sign (k : SharedKey) (uri : String) (expiry : Int) : String := signWith Sha256.hmac k uri expiry

/-- How long a token is good for, in seconds. -/
def validity : Nat := 3600

/-- The token of a resource at a second. -/
def authorize (k : SharedKey) (uri : String) (now : Int) : String := k.sign uri (now + validity)

/-- The key in a diagnostic shows its name only. -/
def diagnostic (k : SharedKey) : String :=
  Quoted.record "SasTokenProvider" [("key_name", Quoted.quote k.name)] false

end SharedKey

end BusRelay
