import IdentityClient.Net.Url.Host

/-!
# URLs

A URL is parsed as the URL standard says, without a base. Web schemes have a host and a path that
starts with a slash; a backslash counts as a slash there. The result is normalised: letter case of
scheme and host, dot segments, default ports, and characters that must be encoded.
-/

namespace IdentityClient

/-- The path of a URL: segments after slashes, or one text in a URL without hierarchy. -/
inductive UrlPath where
  | segments (parts : List String)
  | flat (text : String)
  deriving DecidableEq, Repr

def UrlPath.render : UrlPath → String
  | .segments parts => String.join (parts.map ("/" ++ ·))
  | .flat text => text

structure Url where
  scheme : String
  username : String := ""
  password : Option String := none
  host : Option Host
  port : Option Nat := none
  path : UrlPath
  query : Option String := none
  fragment : Option String := none
  deriving DecidableEq, Repr

namespace Url

/-! ### Schemes -/

inductive SchemeKind where
  | web
  | file
  | other
  deriving DecidableEq, Repr

def schemeKind (scheme : String) : SchemeKind :=
  if ["http", "https", "ws", "wss", "ftp"].contains scheme then .web
  else if scheme == "file" then .file
  else .other

def defaultPort? (scheme : String) : Option Nat :=
  match scheme with
  | "http" => some 80
  | "ws" => some 80
  | "https" => some 443
  | "wss" => some 443
  | "ftp" => some 21
  | _ => none

def isSchemeChar (c : Char) : Bool := c.isAlphanum || c == '+' || c == '-' || c == '.'

/-- The scheme in lower case and what follows its colon. -/
def splitScheme (cs : List Char) : Option (String × List Char) :=
  match cs with
  | c :: _ =>
    if c.isAlpha then
      match cs.dropWhile isSchemeChar with
      | ':' :: rest => some (String.ofList ((cs.takeWhile isSchemeChar).map Char.toLower), rest)
      | _ => none
    else none
  | [] => none

/-! ### Authorities -/

/-- Ends an authority; in web URLs a backslash does, too. -/
def endsAuthority (special : Bool) (c : Char) : Bool :=
  c == '/' || c == '?' || c == '#' || (special && c == '\\')

/-- The part before the last `@` and the part after it. -/
def splitAt? : List Char → Option (List Char × List Char)
  | [] => none
  | c :: rest =>
    match splitAt? rest with
    | some (before, after) => some (c :: before, after)
    | none => if c = '@' then some ([], rest) else none

/-- User name and password of a user info. -/
def splitUserInfo (info : List Char) : String × Option String :=
  let encode (cs : List Char) : String := String.ofList (Percent.encode Percent.inUserInfo cs)
  let name := info.takeWhile (· != ':')
  match info.dropWhile (· != ':') with
  | _ :: c :: password => (encode name, some (encode (c :: password)))
  | _ => (encode name, none)

/-- The host part of an authority and what follows it: a colon outside of brackets ends the host. -/
def splitHost : (bracket : Bool) → List Char → List Char × List Char
  | _, [] => ([], [])
  | bracket, c :: rest =>
    if c = ':' ∧ ¬ bracket then ([], c :: rest)
    else
      let bracket := if c = '[' then true else if c = ']' then false else bracket
      let s := splitHost bracket rest
      (c :: s.1, s.2)

/-- A port: digits with leading zeros allowed; an empty port is none. It ends where the authority ends
or at a backslash, from which on the text belongs to the path. -/
def parsePort (cs : List Char) : Except UrlFault (Option Nat × List Char) :=
  let digits := cs.takeWhile Char.isDigit
  let rest := cs.dropWhile Char.isDigit
  let n := Ipv4.decimalValue digits
  if 65535 < n ∨ ¬ (rest = [] ∨ rest.head? = some '\\') then .error .badPort
  else .ok (if digits.isEmpty then none else some n, rest)

/-- What an authority holds, and what is left over for the path. -/
structure Authority where
  username : String
  password : Option String
  host : Host
  port : Option Nat
  rest : List Char

/-- Host and port of an authority without user info, and what is left over for the path. -/
def parseHostPort (scheme : String) (special : Bool) (cs : List Char) :
    Except UrlFault (Host × Option Nat × List Char) :=
  let (hostText, rest) := splitHost false cs
  if hostText.isEmpty ∧ (special ∨ ¬ rest.isEmpty) then .error .emptyHost
  else match if special then Host.parse hostText else Host.parseOpaque hostText with
    | .error e => .error e
    | .ok host =>
      match rest with
      | [] => .ok (host, none, [])
      | _ :: port =>
        match parsePort port with
        | .error e => .error e
        | .ok (port, rest) => .ok (host, if port = defaultPort? scheme then none else port, rest)

/-- Parses an authority that `rest` follows. Where there is a user there is a host. -/
def parseAuthority (scheme : String) (special : Bool) (text rest : List Char) :
    Except UrlFault Authority :=
  let (info, hostPort) := (splitAt? text).getD ([], text)
  if text = ['@'] ∧ ¬ rest.isEmpty then .error .emptyHost
  else
    let (username, password) := splitUserInfo info
    match parseHostPort scheme special hostPort with
    | .error e => .error e
    | .ok (host, port, more) =>
      if host = .domain "" ∧ (username ≠ "" ∨ password.isSome) then .error .emptyHost
      else .ok ⟨username, password, host, port, more ++ rest⟩

/-! ### Paths -/

def isSlash (special : Bool) (c : Char) : Bool := c == '/' || (special && c == '\\')

/-- Cuts a text at its slashes. -/
def cutSlashes (special : Bool) : List Char → List (List Char)
  | [] => [[]]
  | c :: cs =>
    if isSlash special c then [] :: cutSlashes special cs
    else match cutSlashes special cs with
      | part :: parts => (c :: part) :: parts
      | [] => [[c]]

def isSingleDot (s : String) : Bool := s.toLower == "." || s.toLower == "%2e"

def isDoubleDot (s : String) : Bool := ["..", "%2e.", ".%2e", "%2e%2e"].contains s.toLower

/-- A letter and a colon, or a bar in its place. -/
def isDriveLetter (s : String) : Bool :=
  match s.toList with
  | [c, d] => c.isAlpha && (d == ':' || d == '|')
  | _ => false

/-- Whether a segment is a drive letter, or one that a backslash ends. -/
def startsWithDrive (s : String) : Bool :=
  isDriveLetter (String.ofList (s.toList.takeWhile (· != '\\')))

/-- A drive letter with its colon. -/
def completeDrive (s : String) : String :=
  if isDriveLetter s then String.ofList (s.toList.take 1 ++ [':']) else s

/-- Removes the last segment, but no drive letter, wherever it stands. The last segment comes first. -/
def shorten : List String → List String
  | s :: rest => if startsWithDrive s then s :: rest else rest
  | [] => []

/-- Resolves dot segments; `done` holds the segments so far, the last one first. The first segment of a
file URL may be a drive letter. -/
def resolve (file : Bool) (done : List String) : List String → List String
  | [] => done.reverse
  | s :: rest =>
    if isDoubleDot s then
      let done := shorten done
      if rest.isEmpty then ("" :: done).reverse else resolve file done rest
    else if isSingleDot s then
      if rest.isEmpty then ("" :: done).reverse else resolve file done rest
    else resolve file ((if file && done.isEmpty then completeDrive s else s) :: done) rest

/-- The segments of a path that starts after a slash. -/
def pathSegments (kind : SchemeKind) (cs : List Char) : List String :=
  let parts := (cutSlashes (kind != .other) cs).map fun p =>
    String.ofList (Percent.encode Percent.inPath p)
  let resolved := resolve (kind == .file) [] parts
  if kind == .file then
    let kept := resolved.dropWhile (·.isEmpty)
    if kept.isEmpty then [""] else kept
  else resolved

/-- The path between the authority and the query. -/
def parsePath (kind : SchemeKind) (cs : List Char) : UrlPath :=
  match cs with
  | [] => .segments (if kind == .other then [] else [""])
  | c :: rest =>
    if isSlash (kind != .other) c then .segments (pathSegments kind rest)
    else .segments (pathSegments kind (c :: rest))

/-! ### Whole URLs -/

/-- What stands before the first character that is `mark`, and what follows it. -/
def splitAtMark (mark : Char) (cs : List Char) : List Char × Option (List Char) :=
  match cs.dropWhile (· != mark) with
  | _ :: rest => (cs.takeWhile (· != mark), some rest)
  | [] => (cs, none)

/-- Path text, query and fragment of what follows an authority. -/
def splitTail (kind : SchemeKind) (cs : List Char) : List Char × Option String × Option String :=
  let encode (mustEncode : Char → Bool) (cs : List Char) : String :=
    String.ofList (Percent.encode mustEncode cs)
  let (cs, fragment) := splitAtMark '#' cs
  let (path, query) := splitAtMark '?' cs
  let inQuery := if kind == .other then Percent.inQuery else Percent.inSpecialQuery
  (path, query.map (encode inQuery), fragment.map (encode Percent.inFragment))

/-- A URL with an authority, from after the two slashes. -/
def parseRemote (scheme : String) (kind : SchemeKind) (cs : List Char) : Except UrlFault Url :=
  let special := kind == .web
  let text := cs.takeWhile fun c => !endsAuthority special c
  let rest := cs.dropWhile fun c => !endsAuthority special c
  match parseAuthority scheme special text rest with
  | .error e => .error e
  | .ok a =>
    let (path, query, fragment) := splitTail kind a.rest
    .ok { scheme, username := a.username, password := a.password, host := some a.host,
          port := a.port, path := parsePath kind path, query, fragment }

/-- A URL of a local file, from after its colon. -/
def parseFile (cs : List Char) : Except UrlFault Url :=
  let slash := isSlash true
  let finish (host : Option Host) (cs : List Char) : Url :=
    let (path, query, fragment) := splitTail .file cs
    { scheme := "file", host, path := parsePath .file path, query, fragment }
  match cs with
  | a :: b :: rest =>
    if slash a ∧ slash b then
      let hostText := rest.takeWhile fun c => !endsAuthority true c
      let after := rest.dropWhile fun c => !endsAuthority true c
      if isDriveLetter (String.ofList hostText) then .ok (finish none rest)
      else if hostText.isEmpty then .ok (finish none after)
      else match Host.parse hostText with
        | .error e => .error e
        | .ok host => .ok (finish (if host = .domain "localhost" then none else some host) after)
    else .ok (finish none cs)
  | cs => .ok (finish none cs)

/-- A URL without authority, from after its colon. -/
def parseLocal (scheme : String) (cs : List Char) : Url :=
  let (path, query, fragment) := splitTail .other cs
  let path : UrlPath := match path with
    | '/' :: rest => .segments (pathSegments .other rest)
    | cs => .flat (String.ofList (Percent.encode Percent.isControl cs))
  { scheme, host := none, path, query, fragment }

/-- A URL from after the colon of its scheme. -/
def parseHierarchy (scheme : String) (cs : List Char) : Except UrlFault Url :=
  match schemeKind scheme with
  | .web => parseRemote scheme .web (cs.dropWhile (isSlash true))
  | .file => parseFile cs
  | .other =>
    match cs with
    | '/' :: '/' :: rest => parseRemote scheme .other rest
    | cs => .ok (parseLocal scheme cs)

/-- Control characters and spaces at the ends are dropped, tabs and line ends everywhere. -/
def clean (cs : List Char) : List Char :=
  let edge (c : Char) : Bool := c.toNat ≤ 0x20
  let trimmed := ((cs.dropWhile edge).reverse.dropWhile edge).reverse
  trimmed.filter fun c => c != '\t' && c != '\n' && c != '\r'

def parseChars (cs : List Char) : Except UrlFault Url :=
  match splitScheme (clean cs) with
  | none => .error .noBase
  | some (scheme, rest) => parseHierarchy scheme rest

/-- Parses an absolute URL. -/
def parse (text : String) : Except UrlFault Url := parseChars text.toList

/-- The port that is addressed. -/
def effectivePort? (u : Url) : Option Nat := u.port.orElse fun _ => defaultPort? u.scheme

def render (u : Url) : String :=
  let password := match u.password with
    | some p => ":" ++ p
    | none => ""
  let info := if u.username.isEmpty ∧ u.password.isNone then "" else u.username ++ password ++ "@"
  let port := match u.port with
    | some n => ":" ++ toString n
    | none => ""
  let authority := match u.host with
    | some h => "//" ++ info ++ h.render ++ port
    | none =>
      if u.scheme == "file" then "//"
      -- A path that starts with two slashes must not be taken for an authority.
      else if "//".toList.isPrefixOf u.path.render.toList then "/."
      else ""
  let query := match u.query with
    | some q => "?" ++ q
    | none => ""
  let fragment := match u.fragment with
    | some f => "#" ++ f
    | none => ""
  u.scheme ++ ":" ++ authority ++ u.path.render ++ query ++ fragment

end Url

end IdentityClient
