import ServerTelemetry.Text.Letters
import ServerTelemetry.Text.Number
import ServerTelemetry.Text.Pieces
import ServerTelemetry.Text.Utf8

/-!
# Request targets

A request target has one of four forms: a path with an optional query, a lone asterisk, a lone
authority, or an absolute URI. Reading keeps every part as it is written, except that the schemes
`http` and `https` are put in lower case, that an absolute URI without a path has the path `/`, and
that a fragment is dropped.

The authority is scanned once, left to right; `Authority.Scan` is what is known of it so far. A
colon or percent sign before the last `@` belongs to the user information, one inside brackets to
an IPv6 address, so both are forgotten when the `@` or the closing bracket is met.
-/

namespace ServerTelemetry.Http

open Text

/-- Why a text is no request target. -/
inductive UriError where
  | empty
  | tooLong
  | schemeTooLong
  /-- A character stands where it must not. -/
  | character
  | authority
  /-- The parts do not make up a request target. -/
  | format
  deriving DecidableEq, Repr

/-- The wording of the error. -/
def UriError.message : UriError → Text
  | .empty => "empty string".toList
  | .tooLong => "uri too long".toList
  | .schemeTooLong => "scheme too long".toList
  | .character => "invalid uri character".toList
  | .authority => "invalid authority".toList
  | .format => "invalid format".toList

/-- A request target. -/
inductive Uri where
  /-- A path, with what follows the first question mark. -/
  | origin (path : Text) (query : Option Text)
  /-- The asterisk, for the server as a whole. -/
  | asterisk
  /-- A host with an optional port and user information. -/
  | lone (authority : Text)
  | absolute (scheme authority path : Text) (query : Option Text)
  deriving DecidableEq, Repr

namespace Authority

/-- What is known of an authority up to some character. -/
structure Scan where
  /-- The colons that may belong to a port. -/
  colons : Nat := 0
  opened : Bool := false
  /-- Whether the bracket was closed. -/
  closed : Bool := false
  /-- Whether a percent sign stands in the host. -/
  percent : Bool := false
  /-- Whether the last character was an `@`. -/
  afterAt : Bool := false
  deriving DecidableEq, Repr

/-- The characters of an authority that mean nothing by themselves. -/
def isPlain (c : Char) : Bool :=
  c.isAlphanum || "!$&'()*+,-.;=_~".toList.contains c

/-- The characters that end an authority. -/
def isEnd (c : Char) : Bool :=
  c == '/' || c == '?' || c == '#'

/-- What is known after one more character. -/
def Scan.step (s : Scan) (c : Char) : Except UriError Scan :=
  if c = ':' then
    if 8 ≤ s.colons then .error .authority
    else .ok { s with colons := s.colons + 1, afterAt := false }
  else if c = '[' then
    if s.percent || s.opened then .error .authority
    else .ok { s with opened := true, afterAt := false }
  else if c = ']' then
    if ! s.opened || s.closed then .error .authority
    else .ok { s with closed := true, colons := 0, percent := false, afterAt := false }
  else if c = '@' then .ok { s with colons := 0, percent := false, afterAt := true }
  else if c = '%' then .ok { s with percent := true, afterAt := false }
  else if isPlain c then .ok { s with afterAt := false }
  else .error .character

/-- Whether an authority may end here. -/
def Scan.finish (s : Scan) : Except UriError Unit :=
  if s.opened != s.closed || 1 < s.colons || s.afterAt || s.percent then .error .authority
  else .ok ()

/-- Checks a whole authority. -/
def check (authority : Text) : Except UriError Unit := do
  (← authority.foldlM Scan.step {}).finish

/-- What follows the last `@`: the host with its port. -/
def hostAndPort (authority : Text) : Text :=
  match cutLast '@' authority with
  | some (_, rest) => rest
  | none => authority

/-- The host; an IPv6 address keeps its brackets. -/
def host (authority : Text) : Text :=
  match hostAndPort authority with
  | '[' :: inner => '[' :: first ']' inner ++ [']']
  | rest => first ':' rest

/-- The port: what follows the last colon, if that is one. -/
def port? (authority : Text) : Option UInt16 :=
  (cutLast ':' authority).bind fun (_, port) => readUInt16 port

end Authority

namespace Uri

/-- The characters a path may have. -/
def isPathChar (c : Char) : Bool :=
  let n := c.toNat
  33 ≤ n && n != 127 && ! "<>?#\x60".toList.contains c

/-- The characters a query may have. -/
def isQueryChar (c : Char) : Bool :=
  let n := c.toNat
  33 ≤ n && n != 127 && ! "\"<>#".toList.contains c

/-- The characters before the first colon of a scheme. -/
def isSchemeChar (c : Char) : Bool :=
  c.isAlphanum || "+-.~".toList.contains c

/-- A query up to its fragment. -/
def readQuery (s : Text) : Except UriError Text :=
  let (query, rest) := s.span isQueryChar
  match rest with
  | [] | '#' :: _ => .ok query
  | _ => .error .character

/-- A path, and the query if a question mark follows. -/
def readPath (s : Text) : Except UriError (Text × Option Text) :=
  let (path, rest) := s.span isPathChar
  match rest with
  | [] | '#' :: _ => .ok (path, none)
  | '?' :: rest => do return (path, some (← readQuery rest))
  | _ => .error .character

/-- The scheme in front, if there is one, and what follows its slashes. -/
def readScheme (s : Text) : Except UriError (Option (Text × Text)) :=
  if lower (s.take 7) = "http://".toList then .ok (some ("http".toList, s.drop 7))
  else if lower (s.take 8) = "https://".toList then .ok (some ("https".toList, s.drop 8))
  else
    let (scheme, rest) := s.span isSchemeChar
    match rest with
    | ':' :: '/' :: '/' :: rest =>
      if utf8Length s ≤ 3 then .ok none
      else if 64 < scheme.length then .error .schemeTooLong
      else .ok (some (scheme, rest))
    | _ => .ok none

/-- What follows the slashes of a scheme. -/
def readHierarchy (scheme s : Text) : Except UriError Uri := do
  if s.isEmpty then throw .empty
  let (authority, rest) := s.span (! Authority.isEnd ·)
  Authority.check authority
  if authority.isEmpty then throw .format
  let (path, query) ← readPath rest
  return .absolute scheme authority (if path.isEmpty then ['/'] else path) query

/-- A text that is an authority and nothing else. -/
def readAuthority (s : Text) : Except UriError Uri := do
  let (authority, rest) := s.span (! Authority.isEnd ·)
  Authority.check authority
  if rest.isEmpty then return .lone authority
  else if s.length = 1 then throw .character
  else throw .format

/-- Reads a request target. -/
def read (s : Text) : Except UriError Uri :=
  if 65534 < utf8Length s then .error .tooLong
  else
    match s with
    | [] => .error .empty
    | ['*'] => .ok .asterisk
    | '/' :: _ => do
      let (path, query) ← readPath s
      return .origin path query
    | _ => do
      match ← readScheme s with
      | some (scheme, rest) => readHierarchy scheme rest
      | none => readAuthority s

/-- The scheme of an absolute URI. -/
def scheme? : Uri → Option Text
  | absolute scheme .. => some scheme
  | _ => none

/-- The authority, where the form has one. -/
def authority? : Uri → Option Text
  | absolute _ authority .. => some authority
  | lone authority => some authority
  | _ => none

/-- The path; empty for a lone authority. -/
def path : Uri → Text
  | origin path _ => path
  | asterisk => ['*']
  | lone _ => []
  | absolute _ _ path _ => path

/-- What follows the first question mark; present and empty if nothing follows it. -/
def query? : Uri → Option Text
  | origin _ query => query
  | absolute _ _ _ query => query
  | _ => none

/-- The host, where there is an authority. -/
def host? (u : Uri) : Option Text :=
  u.authority?.map Authority.host

/-- The port, where there is an authority with one. -/
def port? (u : Uri) : Option UInt16 :=
  u.authority?.bind Authority.port?

/-- A query with its question mark. -/
def writeQuery : Option Text → Text
  | some query => '?' :: query
  | none => []

/-- The request target as text. -/
def write : Uri → Text
  | origin path query => path ++ writeQuery query
  | asterisk => ['*']
  | lone authority => authority
  | absolute scheme authority path query =>
    scheme ++ "://".toList ++ authority ++ path ++ writeQuery query

/-! ## Parts -/

/-- The parts of a request target. -/
structure Parts where
  scheme : Option Text
  authority : Option Text
  /-- The path, with what follows the first question mark. -/
  target : Option (Text × Option Text)
  deriving DecidableEq, Repr

/-- The part that is missing where parts make up no request target. -/
inductive PartsError where
  | scheme
  | authority
  | path
  deriving DecidableEq, Repr

/-- The wording of the error. -/
def PartsError.message : PartsError → Text
  | .scheme => "scheme missing".toList
  | .authority => "authority missing".toList
  | .path => "path missing".toList

/-- The parts of the request target. -/
def parts : Uri → Parts
  | origin path query => ⟨none, none, some (path, query)⟩
  | asterisk => ⟨none, none, some (['*'], none)⟩
  | lone authority => ⟨none, some authority, none⟩
  | absolute scheme authority path query => ⟨some scheme, some authority, some (path, query)⟩

/-- The request target that parts make up. A scheme needs an authority and a path, and an authority
needs a scheme where there is a path. -/
def ofParts : Parts → Except PartsError Uri
  | ⟨some _, none, _⟩ => .error .authority
  | ⟨some _, some _, none⟩ => .error .path
  | ⟨some scheme, some authority, some (path, query)⟩ =>
    .ok (.absolute scheme authority path query)
  | ⟨none, some _, some _⟩ => .error .scheme
  | ⟨none, some authority, none⟩ => .ok (.lone authority)
  | ⟨none, none, some (['*'], none)⟩ => .ok .asterisk
  | ⟨none, none, some (path, query)⟩ => .ok (.origin path query)
  | ⟨none, none, none⟩ => .ok (.origin [] none)

/-- Reads a path and a query that stand alone; an absent path is `/`, and a fragment is dropped. -/
def readTarget (s : Text) : Except UriError (Text × Option Text) := do
  let (path, query) ← readPath s
  return (if path.isEmpty then ['/'] else path, query)

end Uri

end ServerTelemetry.Http
