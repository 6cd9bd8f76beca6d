import BusRelay.Codec.Base64
import BusRelay.Http.Message
import BusRelay.Http.Uri
/-!
# The client

A request is carried out by a peer that may answer, break off the connection or stay silent. Up to
ten redirects are followed: 307 and 308 repeat the request at another place, 301, 302 and 303 turn it
into one that only asks. On its way a request says where it comes from and leaves its credentials at
their host; a place that is no URI is not gone to. Every exchange is kept, so that it can be told which
request was answered.
-/

namespace BusRelay.Http

/-- What comes of sending one request. -/
inductive Reply where
  | response (response : Response)
  /-- No connection, or one that ends without an answer. -/
  | dropped
  /-- No answer in time. -/
  | silent

/-- Whoever answers requests, from one state to the next. -/
abbrev Peer (σ : Type) := σ → Request → Reply × σ

/-- A peer that no request reaches. -/
def unreachable : Peer Unit := fun _ _ => (.dropped, ())

/-- Why a request has no response. -/
inductive ClientFault where
  /-- No request can be made, for this URL if it is one. -/
  | builder (url : Option Url)
  | sending (url : Url)
  | timeout (url : Url)
  /-- Too many redirects, the last of them from here. -/
  | redirects (url : Url)
  deriving DecidableEq

namespace ClientFault

def message : ClientFault → String
  | builder none => "builder error"
  | builder (some url) => "builder error for url (" ++ url.text ++ ")"
  | sending url | timeout url => "error sending request for url (" ++ url.text ++ ")"
  | redirects url => "error following redirect for url (" ++ url.text ++ ")"

def isTimeout : ClientFault → Bool
  | timeout _ => true
  | _ => false

end ClientFault

/-- What a response that breaks off is called. -/
def brokenBody : String := "error decoding response body"

/-- The longest URL that can be requested. -/
def maxUrlLength : Nat := 65534

/-- A character that hosts of requests are not made of. -/
def isForbiddenHostChar (c : Char) : Bool := c = '"' || c = '\x60' || c = '{' || c = '}'

/-- Whether a request can be made for a URL. -/
def isRequestable (url : Url) : Bool :=
  (url.scheme = "http" || url.scheme = "https") &&
    (match url.hostText? with
      | some host => !host.toList.any isForbiddenHostChar
      | none => false) &&
    (Utf8.bytes url.text).length ≤ maxUrlLength

/-- The credentials of the user of a URL, as the value of a header. There are none if the name of the user is no
text, and a password that is none is left out. -/
def userCredentials? (url : Url) : Option String :=
  let decoded (s : String) : Option String := Utf8.text? (Percent.decode (Utf8.bytes s))
  let password := url.password.bind decoded
  match decoded url.username with
  | none => none
  | some name =>
    if name = "" ∧ password = none then none
    else some ("Basic " ++ Base64.encode (Utf8.bytes (name ++ ":" ++ password.getD "")))

/-- A request with the user of its URL as a header, and every value fit for a header. -/
def prepare (r : Request) : Except ClientFault Request :=
  if r.headers.entries.all fun header => isHeaderValue header.2 then
    let url := r.url.withoutUser
    if isRequestable url then .ok { r with url, credentials := userCredentials? r.url }
    else .error (.builder (some url))
  else .error (.builder none)

/-- Whether two URLs are at the same host and port. -/
def sameHost (a b : Url) : Bool :=
  a.host = b.host && a.port.or (Url.defaultPort? a.scheme) = b.port.or (Url.defaultPort? b.scheme)

/-- Where a request comes from that goes on to `next`: the place before, without its user and its fragment. On
the way from `https` to `http` nothing is said. -/
def referer? (previous next : Url) : Option String :=
  if next.scheme = "http" ∧ previous.scheme = "https" then none
  else some (previous.withoutUser.withoutFragment.text)

/-- Where a response redirects a request, if it names a place that requests can go to. -/
def destination? (r : Request) (response : Response) : Option Url :=
  (response.header? "location").bind fun location =>
    (Utf8.text? location).bind fun location =>
      (r.url.join location).toOption.filter fun url => (Uri.check url.text).isOk

/-- The headers of a request that goes on to another place. -/
def Request.headersTo (r : Request) (url : Url) : Dict String :=
  match referer? r.url url with
  | some referer => r.headers.insert "referer" referer
  | none => r.headers

/-- The request as it goes on to another place. Credentials stay at their host. -/
def Request.moved (r : Request) (url : Url) : Request :=
  if sameHost r.url url then { r with url := url.withoutUser, headers := r.headersTo url }
  else { r with
    url := url.withoutUser
    headers := (r.headersTo url).erase "authorization"
    credentials := none }

/-- The headers that tell about a body. -/
def payloadHeaders : List String :=
  ["content-encoding", "content-length", "content-type", "transfer-encoding"]

/-- The request without a body, which only asks. -/
def Request.asking (r : Request) : Request :=
  { r with method := .get, headers := payloadHeaders.foldl Dict.erase r.headers, body := [] }

/-- The request that a response redirects to, if it does. -/
def redirect? (r : Request) (response : Response) : Option Request :=
  if response.status = 307 || response.status = 308 then (destination? r response).map r.moved
  else if response.status = 301 || response.status = 302 || response.status = 303 then
    (destination? r response).map fun url => (r.moved url).asking
  else none

/-- How many redirects are followed. -/
def maxRedirects : Nat := 10

/-- What came of a request. -/
structure Exchange (σ : Type) where
  result : Except ClientFault Response
  /-- Every request that was sent, with its reply. -/
  sent : List (Request × Reply)
  state : σ

/-- Sends a request and follows redirects. -/
def follow {σ : Type} (peer : Peer σ) : (redirects : Nat) → σ → Request → Exchange σ
  | redirects, state, r =>
    if isRequestable r.url then
      let (reply, state) := peer state { r with url := r.url.withoutFragment }
      let sent := [(r, reply)]
      match reply with
      | .dropped => ⟨.error (.sending r.url), sent, state⟩
      | .silent => ⟨.error (.timeout r.url), sent, state⟩
      | .response response => match redirect? r response with
        | none => ⟨.ok response, sent, state⟩
        | some next => match redirects with
          | 0 => ⟨.error (.redirects r.url), sent, state⟩
          | redirects + 1 =>
            let after := follow peer redirects state next
            { after with sent := sent ++ after.sent }
    else ⟨.error (.builder (some r.url)), [], state⟩

/-- Carries out a request. -/
def carryOut {σ : Type} (peer : Peer σ) (state : σ) (r : Request) : Exchange σ :=
  match prepare r with
  | .error fault => ⟨.error fault, [], state⟩
  | .ok r => follow peer maxRedirects state r

/-- Carries out a request, unless its URL is none. -/
def carryOut? {σ : Type} (peer : Peer σ) (state : σ) : Option Request → Exchange σ
  | some r => carryOut peer state r
  | none => ⟨.error (.builder none), [], state⟩

end BusRelay.Http
