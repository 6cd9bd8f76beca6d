import BusRelay.Idna.Domain
import BusRelay.Url.Basic
/-!
# Reading URLs

The URL standard's reading of a text: blanks around it and line ends inside are left out, the scheme
is put into lower case, hosts of special schemes are read as domain names or addresses, default ports
are left out and dots are resolved in the path. Characters that may not stand where they do are
percent-encoded. `parse` reads a text of its own and `join` one that may refer to a URL.
-/

namespace BusRelay.Url

/-! ## Characters -/

/-- Control characters and everything outside ASCII. -/
def isControl (c : Char) : Bool := c.toNat < 0x20 || 0x7F ≤ c.toNat

def encodedInFragment (c : Char) : Bool :=
  isControl c || c = ' ' || c = '"' || c = '<' || c = '>' || c = '\x60'

def encodedInPath (c : Char) : Bool :=
  encodedInFragment c || c = '#' || c = '?' || c = '\x7b' || c = '\x7d'

def encodedInUser (c : Char) : Bool :=
  encodedInPath c || c = '/' || c = ':' || c = ';' || c = '=' || c = '@' || c = '[' || c = '\\' ||
    c = ']' || c = '^' || c = '|'

def encodedInQuery (c : Char) : Bool :=
  isControl c || c = ' ' || c = '"' || c = '#' || c = '<' || c = '>'

def encodedInSpecialQuery (c : Char) : Bool := encodedInQuery c || c = '\''

/-- Percent-encodes the characters of a set. -/
def encodeSet (set : Char → Bool) (s : List Char) : List Char :=
  s.flatMap fun c => if set c then (Utf8.charBytes c).flatMap Percent.escape else [c]

/-- A part with the characters of a set percent-encoded. -/
def encoded (set : Char → Bool) (s : List Char) : String := String.ofList (encodeSet set s)

/-- Without control characters and blanks around it, and without tabs and line ends. -/
def cleaned (s : String) : List Char :=
  let isOuter (c : Char) : Bool := c.toNat ≤ 0x20
  let s := ((s.toList.dropWhile isOuter).reverse.dropWhile isOuter).reverse
  s.filter fun c => !(c = '\t' || c = '\n' || c = '\r')

/-! ## Scheme -/

def isSchemeChar (c : Char) : Bool := c.isAlphanum || c = '+' || c = '-' || c = '.'

/-- The scheme in lower case and what follows its colon. -/
def scheme? (s : List Char) : Option (String × List Char) :=
  match s with
  | [] => none
  | c :: _ =>
    if !c.isAlpha then none
    else match s.dropWhile isSchemeChar with
      | ':' :: rest => some (String.ofList ((s.takeWhile isSchemeChar).map Char.toLower), rest)
      | _ => none

/-! ## Host -/

/-- The characters that no domain name holds. -/
def isForbiddenInDomain (c : Char) : Bool :=
  c.toNat ≤ 0x20 || c.toNat = 0x7F || "%#/:<>?@[\\]^|".toList.contains c

/-- The characters that no other host holds. -/
def isForbiddenInHost (c : Char) : Bool :=
  c = '\x00' || c = '\t' || c = '\n' || c = '\r' || " #/:<>?@[\\]^|".toList.contains c

/-- An address in brackets. -/
def readBracketed (s : List Char) : Except UrlFault Host :=
  match s.getLast? with
  | some ']' => .ipv6 <$> Address.readIpv6 s.dropLast
  | _ => .error .invalidIpv6

/-- A domain name or an address. -/
def readDomain (s : List Char) : Except UrlFault Host :=
  match s with
  | '[' :: rest => readBracketed rest
  | _ =>
    match Utf8.text? (Percent.decode (Utf8.bytes (String.ofList s))) with
    | none => .error .invalidDomain
    | some name =>
      match Idna.toAscii? name.toList with
      | none => .error .invalidDomain
      | some ascii =>
        if ascii.any isForbiddenInDomain then .error .invalidDomain
        else if ascii = [] then .error .emptyHost
        else if Address.endsInNumber ascii then .ipv4 <$> Address.readIpv4 ascii
        else .ok (.name (String.ofList ascii))

/-- The host of a scheme that is not special. -/
def readOtherHost (s : List Char) : Except UrlFault Host :=
  match s with
  | '[' :: rest => readBracketed rest
  | _ =>
    if s.any isForbiddenInHost then .error .invalidHostCharacter
    else .ok (.name (encoded isControl s))

/-- Whether a character ends the authority. -/
def endsAuthority (special : Bool) (c : Char) : Bool :=
  c = '/' || c = '?' || c = '#' || (special && c = '\\')

/-- Splits the host off: it ends at a colon outside brackets. -/
def splitHost (inside : Bool) : List Char → List Char × List Char
  | [] => ([], [])
  | c :: rest =>
    if c = ':' && !inside then ([], c :: rest)
    else
      let (host, after) := splitHost (if c = '[' then true else if c = ']' then false else inside) rest
      (c :: host, after)

/-- The port after a colon, and what follows it: nothing, or a backslash and the rest. -/
def readPort (scheme : String) (s : List Char) : Except UrlFault (Option Nat × List Char) :=
  match s with
  | ':' :: s =>
    let ds := s.takeWhile (·.isDigit)
    let rest := s.drop ds.length
    let port := ds.foldl (fun n c => 10 * n + (c.toNat - 48)) 0
    if 65535 < port || rest.head?.any (· ≠ '\\') then .error .invalidPort
    else .ok (if ds = [] ∨ defaultPort? scheme = some port then none else some port, rest)
  | _ => .ok (none, [])

/-- User, host and port, and what follows the port. -/
structure Authority where
  username : String
  password : Option String
  host : Host
  port : Option Nat
  rest : List Char

/-- The user and the password before the last at sign. -/
def readUser (s : List Char) : String × Option String :=
  let name := s.takeWhile (· ≠ ':')
  let rest := s.drop (name.length + 1)
  (encoded encodedInUser name, if rest = [] then none else some (encoded encodedInUser rest))

/-- The authority up to the first character that ends it. An at sign with nothing around it is only
accepted at the end of the text. -/
def readAuthority (scheme : String) (s : List Char) (atEnd : Bool) : Except UrlFault Authority := do
  let special := isSpecial scheme
  let back := s.reverse
  let user := (back.dropWhile (· ≠ '@')).drop 1 |>.reverse
  let hasUser := s.contains '@'
  let rest := if hasUser then (back.takeWhile (· ≠ '@')).reverse else s
  if hasUser && user = [] && rest = [] && !atEnd then throw .emptyHost
  let (username, password) := if hasUser then readUser user else ("", none)
  let (hostChars, portChars) := splitHost false rest
  if special && hostChars = [] then throw .emptyHost
  let host ← if special then readDomain hostChars else readOtherHost hostChars
  if hostChars = [] && portChars ≠ [] then throw .emptyHost
  let (port, after) ← readPort scheme portChars
  if hostChars = [] && (username ≠ "" || password.isSome) then throw .emptyHost
  return ⟨username, password, host, port, after⟩

/-! ## Path -/

/-- Whether a segment stands for the one it is in. -/
def isSingleDot (s : List Char) : Bool :=
  s = ['.'] || s.map Char.toLower = ['%', '2', 'e']

/-- Whether a segment stands for the one before it. -/
def isDoubleDot (s : List Char) : Bool :=
  let s := s.map Char.toLower
  s = ['.', '.'] || s = ['.', '%', '2', 'e'] || s = ['%', '2', 'e', '.'] ||
    s = ['%', '2', 'e', '%', '2', 'e']

/-- A letter and a colon or bar. -/
def isDriveLetter (s : List Char) : Bool :=
  match s with
  | [a, b] => a.isAlpha && (b = ':' || b = '|')
  | _ => false

/-- Takes the last segment off; the drive letter of a file stays. `path` is reversed. -/
def shorten (file : Bool) (path : List (List Char)) : List (List Char) :=
  match path with
  | [only] => if file && isDriveLetter only then [only] else []
  | path => path.drop 1

/-- Puts a segment on a reversed path. `more` says that a slash follows it. -/
def pushSegment (file more : Bool) (path : List (List Char)) (segment : List Char) :
    List (List Char) :=
  if isDoubleDot segment then
    let shorter := shorten file path
    if more then shorter else [] :: shorter
  else if isSingleDot segment then if more then path else [] :: path
  else
    let segment := match segment with
      | [a, _] => if file && path = [] && isDriveLetter segment then [a, ':'] else segment
      | _ => segment
    encodeSet encodedInPath segment :: path

/-- Pushes segments one after the other; only the last has no slash behind it. -/
def pushSegments (file : Bool) (path : List (List Char)) : List (List Char) → List (List Char)
  | [] => path
  | [last] => pushSegment file false path last
  | segment :: rest => pushSegments file (pushSegment file true path segment) rest

/-- The text up to a query or a fragment, and the rest. -/
def splitPath (s : List Char) : List Char × List Char :=
  let isEnd (c : Char) : Bool := c = '?' || c = '#'
  (s.takeWhile (!isEnd ·), s.dropWhile (!isEnd ·))

/-- The segments between slashes; a backslash is one in special schemes. -/
def splitSegments (special : Bool) (s : List Char) : List (List Char) :=
  s.splitOnP fun c => c = '/' || (special && c = '\\')

/-- A path of segments on top of a reversed one. -/
def pathOf (scheme : String) (onto : List (List Char)) (s : List Char) : List String :=
  let file := scheme = "file"
  let path := (pushSegments file onto (splitSegments (isSpecial scheme) s)).reverse
  let path := if file then
      let trimmed := path.dropWhile (· = [])
      if trimmed = [] then [[]] else trimmed
    else path
  path.map String.ofList

/-- The path after the authority. -/
def pathAfterHost (scheme : String) (s : List Char) : List String :=
  match s with
  | [] => if isSpecial scheme then [""] else []
  | c :: rest =>
    if c = '/' || (isSpecial scheme && c = '\\') then pathOf scheme [] rest else pathOf scheme [] s

/-- Query and fragment with their signs. -/
def readQueryAndFragment (scheme : String) (s : List Char) : Option String × Option String :=
  let fragment (s : List Char) : Option String :=
    match s with
    | '#' :: rest => some (encoded encodedInFragment rest)
    | _ => none
  match s with
  | '?' :: rest =>
    let set := if isSpecial scheme then encodedInSpecialQuery else encodedInQuery
    (some (encoded set (rest.takeWhile (· ≠ '#'))), fragment (rest.dropWhile (· ≠ '#')))
  | s => (none, fragment s)

/-- Query and fragment of a URL. -/
def withEnd (u : Url) (s : List Char) : Url :=
  let (query, fragment) := readQueryAndFragment u.scheme s
  { u with query := query, fragment := fragment }

/-! ## Whole URLs -/

/-- A URL of a scheme with nothing else. -/
def bare (scheme : String) : Url := ⟨scheme, "", none, none, none, .segments [], none, none⟩

/-- What follows the two slashes of a scheme that is no file. -/
def readAfterSlashes (scheme : String) (s : List Char) : Except UrlFault Url := do
  let special := isSpecial scheme
  let after := s.dropWhile (!endsAuthority special ·)
  let authority ← readAuthority scheme (s.takeWhile (!endsAuthority special ·)) (after = [])
  let (path, rest) := splitPath (authority.rest ++ after)
  return withEnd { bare scheme with
    username := authority.username, password := authority.password
    host := some authority.host, port := authority.port
    path := .segments (pathAfterHost scheme path) } rest

/-- A scheme that is not special and has no authority. -/
def readOther (scheme : String) (s : List Char) : Url :=
  let (path, rest) := splitPath s
  withEnd { bare scheme with
    path := match path with
      | '/' :: path => .segments (pathOf scheme [] path)
      | _ => .text (encoded isControl path) } rest

/-- A slash of either kind. -/
def isSlash (c : Char) : Bool := c = '/' || c = '\\'

/-- What follows the scheme of a file. -/
def readFile (s : List Char) : Except UrlFault Url := do
  let file (host : Host) (s : List Char) (path : List Char → List String) : Url :=
    let (front, rest) := splitPath s
    withEnd { bare "file" with host := some host, path := .segments (path front) } rest
  match s with
  | a :: b :: after =>
    if isSlash a && isSlash b then
      let hostChars := after.takeWhile (!endsAuthority true ·)
      if isDriveLetter hostChars then return file (.name "") after (pathOf "file" [])
      let rest := after.dropWhile (!endsAuthority true ·)
      let host ← if hostChars = [] then pure (.name "") else readDomain hostChars
      let host := if host = .name "localhost" then .name "" else host
      let first := ((splitPath rest).1.drop 1).takeWhile (!isSlash ·)
      return file (if isDriveLetter first then .name "" else host) rest (pathAfterHost "file")
    else return file (.name "") s (pathAfterHost "file")
  | _ => return file (.name "") s (pathAfterHost "file")

/-- What follows the scheme and its colon. -/
def readWithScheme (scheme : String) (s : List Char) : Except UrlFault Url :=
  if scheme = "file" then readFile s
  else if isSpecial scheme then readAfterSlashes scheme (s.dropWhile isSlash)
  else match s with
    | '/' :: '/' :: rest => readAfterSlashes scheme rest
    | _ => .ok (readOther scheme s)

/-- The URL that a text writes. -/
def parse (s : String) : Except UrlFault Url :=
  match scheme? (cleaned s) with
  | none => .error .relative
  | some (scheme, rest) => readWithScheme scheme rest

/-- What a text without a scheme of its own refers to, seen from a URL of a special scheme. -/
def readRelative (base : Url) (s : List Char) : Except UrlFault Url :=
  let segments : List (List Char) := match base.path with
    | .segments items => items.map String.toList
    | .text _ => []
  match s with
  | [] => .ok base.withoutFragment
  | '?' :: _ => .ok (withEnd base s)
  | '#' :: rest => .ok { base with fragment := some (encoded encodedInFragment rest) }
  | a :: rest =>
    if isSlash a then
      match rest with
      | b :: after =>
        if isSlash b then readAfterSlashes base.scheme (after.dropWhile isSlash)
        else
          let (path, more) := splitPath rest
          .ok (withEnd { base with path := .segments (pathOf base.scheme [] path) } more)
      | [] => .ok (withEnd { base with path := .segments [""] } [])
    else
      let (path, more) := splitPath s
      .ok (withEnd { base with
        path := .segments (pathOf base.scheme (segments.dropLast.reverse) path) } more)

/-- What a text refers to, seen from a URL of a special scheme. -/
def join (base : Url) (s : String) : Except UrlFault Url :=
  let s := cleaned s
  match scheme? s with
  | none => readRelative base s
  | some (scheme, rest) =>
    if scheme = base.scheme ∧ isSpecial scheme ∧ (rest.takeWhile isSlash).length < 2 then
      readRelative base rest
    else readWithScheme scheme rest

end BusRelay.Url
