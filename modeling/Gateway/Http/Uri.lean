/-!
# Request targets

A target is an origin form (`/path?query`), an asterisk, an authority alone, or an
absolute form with scheme and authority. Fragments are dropped. An absolute target
may leave its path out, which then reads as `/`.
-/

namespace Gateway

namespace Uri

inductive Fault where
  | character
  | authority
  | format
  | tooLong
  | empty
  | schemeTooLong
  deriving DecidableEq, Repr

def Fault.message : Fault → String
  | .character => "invalid uri character"
  | .authority => "invalid authority"
  | .format => "invalid format"
  | .tooLong => "uri too long"
  | .empty => "empty string"
  | .schemeTooLong => "scheme too long"

def maxLength : Nat := 65534
def maxSchemeLength : Nat := 64

end Uri

/-- Path and query as they were given; the path may be empty. -/
structure PathQuery where
  path : String
  query : Option String
  deriving DecidableEq, Repr

structure Uri where
  scheme : Option String
  authority : Option String
  target : PathQuery
  deriving DecidableEq, Repr

namespace PathQuery

def isPathChar (c : Char) : Bool :=
  let n := c.toNat
  n = 0x21 || (0x24 ≤ n && n ≤ 0x3B) || n = 0x3D || (0x40 ≤ n && n ≤ 0x5F) ||
    (0x61 ≤ n && n ≤ 0x7A) || n = 0x7C || n = 0x7E || c = '"' || n = 0x7b || n = 0x7d

def isQueryChar (c : Char) : Bool :=
  let n := c.toNat
  n = 0x21 || (0x24 ≤ n && n ≤ 0x3B) || n = 0x3D || (0x3F ≤ n && n ≤ 0x7E)

/-- Reads a path with its query; whatever follows a number sign is dropped. -/
def parse (cs : List Char) : Except Uri.Fault PathQuery :=
  let path := cs.takeWhile fun c => c ≠ '?' && c ≠ '#'
  let rest := cs.dropWhile fun c => c ≠ '?' && c ≠ '#'
  if !path.all isPathChar then .error .character
  else
    match rest with
    | '?' :: more =>
        let query := more.takeWhile (· ≠ '#')
        if query.all isQueryChar then .ok ⟨String.ofList path, some (String.ofList query)⟩
        else .error .character
    | _ => .ok ⟨String.ofList path, none⟩

def withQuery (path : String) : Option String → String
  | some q => path ++ "?" ++ q
  | none => path

/-- As written, or `/` when there is neither path nor query. -/
def text (p : PathQuery) : String :=
  if p.path.isEmpty && p.query.isNone then "/" else withQuery p.path p.query

/-- As sent to a server: an empty path is `/`. -/
def originForm (p : PathQuery) : String :=
  withQuery (if p.path.isEmpty then "/" else p.path) p.query

end PathQuery

namespace Uri

def isReserved (c : Char) : Bool :=
  ['!', '#', '$', '&', '\x27', '(', ')', '*', '+', ',', '/', ':', ';', '=', '?', '@',
    '[', ']'].contains c

def isUriChar (c : Char) : Bool :=
  c.isAlphanum || isReserved c || c = '-' || c = '.' || c = '_' || c = '~'

def isSchemeChar (c : Char) : Bool :=
  c.isAlphanum || c = '+' || c = '-' || c = '.' || c = '~'

/-- What has been seen of an authority. -/
structure AuthorityScan where
  colons : Nat := 0
  opened : Bool := false
  closed : Bool := false
  percent : Bool := false
  endsInAt : Bool := false

def maxColons : Nat := 8

/-- Reads an authority up to a slash, question mark or number sign. Colons and percent
signs count only outside of user information and brackets. -/
def scanAuthority (s : AuthorityScan) : List Char → Except Fault (AuthorityScan × List Char)
  | [] => .ok (s, [])
  | c :: rest =>
      if c = '/' || c = '?' || c = '#' then .ok (s, c :: rest)
      else if c = ':' then
        if maxColons ≤ s.colons then .error .authority
        else scanAuthority { s with colons := s.colons + 1, endsInAt := false } rest
      else if c = '[' then
        if s.percent || s.opened then .error .authority
        else scanAuthority { s with opened := true, endsInAt := false } rest
      else if c = ']' then
        if !s.opened || s.closed then .error .authority
        else
          scanAuthority { s with closed := true, colons := 0, percent := false, endsInAt := false } rest
      else if c = '@' then
        scanAuthority { s with colons := 0, percent := false, endsInAt := true } rest
      else if c = '%' then scanAuthority { s with percent := true, endsInAt := false } rest
      else if isUriChar c then scanAuthority { s with endsInAt := false } rest
      else .error .character

/-- Splits an authority off the front. -/
def splitAuthority (cs : List Char) : Except Fault (List Char × List Char) :=
  match scanAuthority {} cs with
  | .error e => .error e
  | .ok (s, rest) =>
      if s.opened != s.closed then .error .authority
      else if 1 < s.colons then .error .authority
      else if s.endsInAt then .error .authority
      else if s.percent then .error .authority
      else .ok (cs.take (cs.length - rest.length), rest)

def startsWithFold (word : List Char) (cs : List Char) : Bool :=
  word = (cs.take word.length).map Char.toLower

/-- The scheme in front of `://`, if there is one, and what follows. -/
def splitScheme (cs : List Char) : Except Fault (Option String × List Char) :=
  if startsWithFold "http://".toList cs then .ok (some "http", cs.drop 7)
  else if startsWithFold "https://".toList cs then .ok (some "https", cs.drop 8)
  else if cs.length ≤ 3 then .ok (none, cs)
  else
    let name := cs.takeWhile isSchemeChar
    match cs.dropWhile isSchemeChar with
    | ':' :: '/' :: '/' :: rest =>
        if maxSchemeLength < name.length then .error .schemeTooLong
        else .ok (some (String.ofList name), rest)
    | _ => .ok (none, cs)

def nonempty (cs : List Char) : Option String :=
  if cs.isEmpty then none else some (String.ofList cs)

def octets (cs : List Char) : Nat :=
  cs.foldl (fun n c => n + c.utf8Size) 0

def parseFull (cs : List Char) : Except Fault Uri := do
  let (scheme, rest) ← splitScheme cs
  let (authority, path) ← splitAuthority rest
  match scheme with
  | none =>
      if path.isEmpty then .ok ⟨none, nonempty authority, ⟨"", none⟩⟩ else .error .format
  | some s =>
      if authority.isEmpty then .error .format
      else
        let target ← PathQuery.parse path
        .ok ⟨some s, nonempty authority, target⟩

def parse (cs : List Char) : Except Fault Uri :=
  if maxLength < octets cs then .error .tooLong
  else
    match cs with
    | [] => .error .empty
    | ['*'] => .ok ⟨none, none, ⟨"*", none⟩⟩
    | '/' :: _ => (PathQuery.parse cs).map (⟨none, none, ·⟩)
    | [c] =>
        if 128 ≤ c.toNat then .error .character
        else
          match splitAuthority cs with
          | .error e => .error e
          | .ok (a, rest) =>
              if rest.isEmpty then .ok ⟨none, nonempty a, ⟨"", none⟩⟩ else .error .character
    | _ => parseFull cs

def ofString (s : String) : Except Fault Uri :=
  parse s.toList

/-- Authority forms have no path at all. -/
def hasTarget (u : Uri) : Bool :=
  u.scheme.isSome || u.authority.isNone

def path (u : Uri) : String :=
  if !u.target.path.isEmpty then u.target.path
  else if u.target.query.isSome || u.scheme.isSome then "/"
  else ""

def pathAndQuery? (u : Uri) : Option PathQuery :=
  if u.hasTarget then some u.target else none

def text (u : Uri) : String :=
  (match u.scheme with | some s => s ++ "://" | none => "") ++ u.authority.getD "" ++
    PathQuery.withQuery u.path u.target.query

/-- The part of an authority after the last at sign. -/
def hostPort (authority : List Char) : List Char :=
  (authority.reverse.takeWhile (· ≠ '@')).reverse

/-- The host without port and user information; brackets stay. -/
def hostOf (authority : List Char) : List Char :=
  match hostPort authority with
  | '[' :: rest => '[' :: rest.takeWhile (· ≠ ']') ++ [']']
  | cs => cs.takeWhile (· ≠ ':')

def host? (u : Uri) : Option String :=
  u.authority.map fun a => String.ofList (hostOf a.toList)

/-- A port number of 16 bits after the last colon. -/
def port? (u : Uri) : Option Nat := do
  let a ← u.authority
  let ds := (a.toList.reverse.takeWhile (· ≠ ':')).reverse
  if ds.length = a.length then none
  else
    let ds := match ds with | '+' :: r => r | r => r
    if ds.isEmpty || !ds.all Char.isDigit then none
    else
      let n := ds.foldl (fun n c => n * 10 + (c.toNat - '0'.toNat)) 0
      if n < 65536 then some n else none

/-- The port that a scheme implies. -/
def defaultPort? : String → Option Nat
  | "http" => some 80
  | "https" => some 443
  | _ => none

end Uri

end Gateway
