import BusRelay.Codec.Percent
import BusRelay.Url.Address
/-!
# URLs

A URL in its parts, and its text. The parts are kept as they are written, percent-encoded where they
have to be, so that the text is their concatenation.
-/

namespace BusRelay

/-- Whom a URL names. -/
inductive Host where
  /-- A domain name, or any other name; it is empty where a URL has a host of no name. -/
  | name (text : String)
  | ipv4 (address : Nat)
  | ipv6 (groups : List Nat)
  deriving DecidableEq, Repr

/-- A host as it is written. -/
def Host.text : Host → String
  | name text => text
  | ipv4 address => Address.ipv4Text address
  | ipv6 groups => "[" ++ Address.ipv6Text groups ++ "]"

/-- What a URL names at its host. -/
inductive UrlPath where
  /-- Segments, each behind a slash. -/
  | segments (items : List String)
  /-- A text without structure. -/
  | text (value : String)
  deriving DecidableEq, Repr

def UrlPath.toText : UrlPath → String
  | segments items => String.join (items.map ("/" ++ ·))
  | text value => value

/-- A URL. -/
structure Url where
  scheme : String
  username : String
  password : Option String
  host : Option Host
  port : Option Nat
  path : UrlPath
  query : Option String
  fragment : Option String
  deriving DecidableEq, Repr

namespace Url

/-- The port of a scheme that is left out. -/
def defaultPort? (scheme : String) : Option Nat :=
  if scheme = "http" ∨ scheme = "ws" then some 80
  else if scheme = "https" ∨ scheme = "wss" then some 443
  else if scheme = "ftp" then some 21 else none

/-- The schemes with a host and a path in segments. -/
def isSpecial (scheme : String) : Bool :=
  scheme = "file" || (defaultPort? scheme).isSome

/-- The user before the host, with the sign between them. -/
def userText (u : Url) : String :=
  match u.password with
  | some password => u.username ++ ":" ++ password ++ "@"
  | none => if u.username = "" then "" else u.username ++ "@"

/-- What stands between the slashes and the path. -/
def authorityText (u : Url) : String :=
  match u.host with
  | none => ""
  | some host => u.userText ++ host.text ++ (match u.port with
    | some port => s!":{port}"
    | none => "")

/-- The path; one that starts with two slashes and follows no host gets a segment in front. -/
def pathText (u : Url) : String :=
  match u.host, u.path with
  | none, .segments ("" :: _ :: _) => "/." ++ u.path.toText
  | _, path => path.toText

/-- A part with the sign in front of it, if it is there. -/
def marked (mark : String) : Option String → String
  | some s => mark ++ s
  | none => ""

/-- The URL as it is written. -/
def text (u : Url) : String :=
  u.scheme ++ ":" ++ (if u.host.isSome then "//" else "") ++ u.authorityText ++ u.pathText ++
    marked "?" u.query ++ marked "#" u.fragment

/-- The name of the host, if there is one that is not empty. -/
def hostText? (u : Url) : Option String :=
  match u.host with
  | some (.name "") => none
  | some host => some host.text
  | none => none

/-- The URL without its user. -/
def withoutUser (u : Url) : Url := { u with username := "", password := none }

/-- The URL without its fragment. -/
def withoutFragment (u : Url) : Url := { u with fragment := none }

end Url

end BusRelay
