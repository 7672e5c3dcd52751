/-!
# Request targets

A request is addressed by a URI: `scheme://authority/path?query`, a bare path, or a bare authority.
Parsing is strict on characters but does not look into hosts; a fragment is dropped.
-/

namespace IdentityClient

/-- Why a text is no request target. -/
inductive UriFault where
  | badCharacter
  | badAuthority
  | badFormat
  | empty
  | tooLong
  | schemeTooLong
  deriving DecidableEq, Repr

def UriFault.message : UriFault → String
  | .badCharacter => "invalid uri character"
  | .badAuthority => "invalid authority"
  | .badFormat => "invalid format"
  | .empty => "empty string"
  | .tooLong => "uri too long"
  | .schemeTooLong => "scheme too long"

inductive Scheme where
  | http
  | https
  | other (name : String)
  deriving DecidableEq, Repr

def Scheme.name : Scheme → String
  | .http => "http"
  | .https => "https"
  | .other name => name

/-- The path and query of a target, as written. -/
structure PathQuery where
  path : String
  query : Option String
  deriving DecidableEq, Repr

structure Uri where
  scheme : Option Scheme
  authority : Option String
  target : PathQuery
  deriving DecidableEq, Repr

/-! ### Paths -/

namespace PathQuery

/-- Characters outside ASCII, and those of ASCII that stand in a path as they are. -/
def isPathChar (c : Char) : Bool :=
  let n := c.toNat
  n == 0x21 || (0x24 ≤ n && n ≤ 0x3B) || n == 0x3D || (0x40 ≤ n && n ≤ 0x5F) ||
    (0x61 ≤ n && n ≤ 0x7A) || n == 0x7C || n == 0x7E || 0x80 ≤ n ||
    c == '"' || c == '\x7b' || c == '\x7d'

/-- Characters that stand in a query as they are. -/
def isQueryChar (c : Char) : Bool :=
  let n := c.toNat
  n == 0x21 || (0x24 ≤ n && n ≤ 0x3B) || n == 0x3D || (0x3F ≤ n && n != 0x7F)

/-- A path, a query after `?`, and a fragment that is dropped. -/
def parse (cs : List Char) : Except UriFault PathQuery :=
  let path := cs.takeWhile fun c => c != '?' && c != '#'
  let rest := cs.dropWhile fun c => c != '?' && c != '#'
  if !path.all isPathChar then .error .badCharacter
  else match rest with
    | '?' :: rest =>
      let query := rest.takeWhile (· != '#')
      if query.all isQueryChar then .ok ⟨String.ofList path, some (String.ofList query)⟩
      else .error .badCharacter
    | _ => .ok ⟨String.ofList path, none⟩

/-- The path, which is never shown empty. -/
def shownPath (t : PathQuery) : String := if t.path.isEmpty then "/" else t.path

end PathQuery

/-! ### Authorities -/

namespace Authority

def maxColons : Nat := 8

/-- Letters, digits and the marks that stand in an authority besides `:`, `[`, `]`, `@` and `%`. -/
def isPlain (c : Char) : Bool :=
  c.isAlphanum || "-._~!$&'()*+,;=".toList.contains c

/-- What has been seen since the last `@` or closing bracket. -/
structure Scan where
  colons : Nat
  opened : Bool
  closed : Bool
  percent : Bool
  /-- The last character was `@`. -/
  atLast : Bool
  deriving DecidableEq, Repr

def Scan.start : Scan := ⟨0, false, false, false, false⟩

/-- Scans one character of an authority. -/
def Scan.next (s : Scan) (c : Char) : Except UriFault Scan :=
  let s := { s with atLast := false }
  if c = ':' then
    if maxColons ≤ s.colons then .error .badAuthority else .ok { s with colons := s.colons + 1 }
  else if c = '[' then
    if s.percent ∨ s.opened then .error .badAuthority else .ok { s with opened := true }
  else if c = ']' then
    if ¬ s.opened ∨ s.closed then .error .badAuthority
    else .ok { s with closed := true, colons := 0, percent := false }
  else if c = '@' then .ok { s with atLast := true, colons := 0, percent := false }
  else if c = '%' then .ok { s with percent := true }
  else if isPlain c then .ok s
  else .error .badCharacter

def Scan.run : Scan → List Char → Except UriFault Scan
  | s, [] => .ok s
  | s, c :: cs =>
    match s.next c with
    | .error e => .error e
    | .ok s => s.run cs

/-- Whether a scan may end here. -/
def Scan.isComplete (s : Scan) : Bool :=
  s.opened == s.closed && s.colons ≤ 1 && !s.atLast && !s.percent

def endsAuthority (c : Char) : Bool := c == '/' || c == '?' || c == '#'

/-- Splits a non-empty text after its authority. -/
def split (cs : List Char) : Except UriFault (List Char × List Char) :=
  if cs.isEmpty then .error .empty
  else
    let authority := cs.takeWhile fun c => !endsAuthority c
    match Scan.start.run authority with
    | .error e => .error e
    | .ok s =>
      if s.isComplete then .ok (authority, cs.dropWhile fun c => !endsAuthority c)
      else .error .badAuthority

/-- The part after the last occurrence of `mark`, if there is one. -/
def afterLast? (mark : Char) : List Char → Option (List Char)
  | [] => none
  | c :: rest =>
    match afterLast? mark rest with
    | some tail => some tail
    | none => if c = mark then some rest else none

/-- The host of an authority, with its brackets. -/
def host (authority : String) : String :=
  let cs := authority.toList
  let hostPort := (afterLast? '@' cs).getD cs
  match hostPort with
  | '[' :: _ => String.ofList (hostPort.takeWhile (· != ']') ++ [']'])
  | _ => String.ofList (hostPort.takeWhile (· != ':'))

/-- A port number: digits, after a plus sign or without one, below 65536. -/
def portNumber? (cs : List Char) : Option Nat :=
  let digits := match cs with
    | '+' :: rest => rest
    | rest => rest
  if digits.isEmpty || !digits.all Char.isDigit then none
  else
    let n := digits.foldl (fun n c => n * 10 + (c.toNat - '0'.toNat)) 0
    if n < 65536 then some n else none

/-- The port of an authority: the number after its last colon. -/
def port? (authority : String) : Option Nat :=
  (afterLast? ':' authority.toList).bind portNumber?

end Authority

/-! ### URIs -/

namespace Uri

/-- In bytes. -/
def maxLength : Nat := 65534

def maxSchemeLength : Nat := 64

def isSchemeChar (c : Char) : Bool :=
  c.isAlphanum || c == '+' || c == '-' || c == '.' || c == '~'

/-- Whether `cs` starts with `start`, which is in lower case, letters in either case. -/
def startsWithIgnoreCase (start cs : List Char) : Bool :=
  start.isPrefixOf (cs.take start.length |>.map Char.toLower)

/-- The scheme at the front of a text and what follows `://`. -/
def splitScheme (cs : List Char) : Except UriFault (Option Scheme × List Char) :=
  if startsWithIgnoreCase "http://".toList cs then .ok (some .http, cs.drop 7)
  else if startsWithIgnoreCase "https://".toList cs then .ok (some .https, cs.drop 8)
  else
    let name := cs.takeWhile isSchemeChar
    match cs.dropWhile isSchemeChar with
    | ':' :: '/' :: '/' :: rest =>
      if cs.length ≤ 3 then .ok (none, cs)
      else if maxSchemeLength < name.length then .error .schemeTooLong
      else .ok (some (.other (String.ofList name)), rest)
    | _ => .ok (none, cs)

/-- A URI with a scheme, or a bare authority. -/
def parseFull (cs : List Char) : Except UriFault Uri :=
  match splitScheme cs with
  | .error e => .error e
  | .ok (scheme, rest) =>
    match Authority.split rest with
    | .error e => .error e
    | .ok (authority, rest) =>
      match scheme with
      | none =>
        if rest.isEmpty then .ok ⟨none, some (String.ofList authority), ⟨"", none⟩⟩
        else .error .badFormat
      | some scheme =>
        if authority.isEmpty then .error .badFormat
        else
          match PathQuery.parse rest with
          | .error e => .error e
          | .ok target => .ok ⟨some scheme, some (String.ofList authority), target⟩

/-- A bare authority of one character. -/
def parseSingle (c : Char) : Except UriFault Uri :=
  match Authority.split [c] with
  | .error e => .error e
  | .ok (authority, rest) =>
    if rest.isEmpty then .ok ⟨none, some (String.ofList authority), ⟨"", none⟩⟩ else .error .badCharacter

/-- Parses a request target. -/
def parse (text : String) : Except UriFault Uri :=
  if maxLength < text.utf8ByteSize then .error .tooLong
  else match text.toList with
    | [] => .error .empty
    | ['*'] => .ok ⟨none, none, ⟨"*", none⟩⟩
    | '/' :: rest =>
      match PathQuery.parse ('/' :: rest) with
      | .error e => .error e
      | .ok target => .ok ⟨none, none, target⟩
    | [c] => if c.toNat < 0x80 then parseSingle c else parseFull [c]
    | cs => parseFull cs

/-- The path: empty only for a bare authority. -/
def path (u : Uri) : String :=
  if u.target.path.isEmpty ∧ u.target.query.isNone ∧ u.scheme.isNone then "" else u.target.shownPath

def host? (u : Uri) : Option String := u.authority.map Authority.host

def port? (u : Uri) : Option Nat := u.authority.bind Authority.port?

def render (u : Uri) : String :=
  let scheme := match u.scheme with
    | some s => s.name ++ "://"
    | none => ""
  let query := match u.target.query with
    | some q => "?" ++ q
    | none => ""
  scheme ++ u.authority.getD "" ++ u.path ++ query

end Uri

end IdentityClient
