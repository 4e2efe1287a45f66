import Gateway.Url.Host
import Gateway.Url.Path

/-!
# URLs

Absolute URLs as they are typed: blanks around them and line breaks within are dropped,
some schemes take a backslash for a slash and have a default port that is left out, and
every part is percent-encoded as it has to be.
-/

namespace Gateway

/-- User information, host and port. -/
structure UrlAuthority where
  username : List Char
  password : Option (List Char)
  host : Host
  port : Option Nat

structure Url where
  scheme : String
  authority : Option UrlAuthority
  path : List Char
  query : Option (List Char)
  fragment : Option (List Char)

namespace Url

def defaultPort? : String → Option Nat
  | "http" => some 80
  | "ws" => some 80
  | "https" => some 443
  | "wss" => some 443
  | "ftp" => some 21
  | _ => none

/-- Schemes whose URLs always have a host and a path. -/
def isWeb (scheme : String) : Bool := (defaultPort? scheme).isSome

def isFile (scheme : String) : Bool := scheme = "file"

def isSpecial (scheme : String) : Bool := isWeb scheme || isFile scheme

/-- Controls and blanks around the URL, and tabs and line breaks anywhere, do not count. -/
def clean (cs : List Char) : List Char :=
  let isEdge (c : Char) : Bool := c.toNat ≤ 0x20
  let inner := ((cs.dropWhile isEdge).reverse.dropWhile isEdge).reverse
  inner.filter fun c => c ≠ '\t' && c ≠ '\n' && c ≠ '\r'

def isSchemeChar (c : Char) : Bool :=
  c.isAlphanum || c = '+' || c = '-' || c = '.'

def splitScheme? (cs : List Char) : Option (String × List Char) :=
  if cs.head?.any Char.isAlpha then
    match cs.dropWhile isSchemeChar with
    | ':' :: rest => some (String.ofList ((cs.takeWhile isSchemeChar).map Char.toLower), rest)
    | _ => none
  else none

/-- Where user information, host or path end. -/
def endsPart (special : Bool) (c : Char) : Bool :=
  c = '/' || c = '?' || c = '#' || (special && c = '\\')

/-- User information: a name and, if it is not empty, a password. -/
def userinfo (cs : List Char) : List Char × Option (List Char) :=
  let name := Percent.encode Percent.userinfo (cs.takeWhile (· ≠ ':'))
  match cs.dropWhile (· ≠ ':') with
  | _ :: c :: rest => (name, some (Percent.encode Percent.userinfo (c :: rest)))
  | _ => (name, none)

/-- Splits an authority at its last at sign. -/
def splitUserinfo (cs : List Char) : Option (List Char) × List Char :=
  if cs.contains '@' then
    let host := (cs.reverse.takeWhile (· ≠ '@')).reverse
    (some (cs.take (cs.length - host.length - 1)), host)
  else (none, cs)

/-- The host ends at the first colon outside of brackets. -/
def hostLength (inside : Bool) : List Char → Nat
  | [] => 0
  | c :: rest =>
      if c = ':' && !inside then 0
      else if c = '[' then hostLength true rest + 1
      else if c = ']' then hostLength false rest + 1
      else hostLength inside rest + 1

def port? (scheme : String) (cs : List Char) : Except UrlFault (Option Nat) :=
  let ds := cs.takeWhile Char.isDigit
  let n := ds.foldl (fun n c => n * 10 + (c.toNat - '0'.toNat)) 0
  if 65535 < n || (cs.drop ds.length) ≠ [] then .error .port
  else if ds.isEmpty || defaultPort? scheme = some n then .ok none
  else .ok (some n)

def parseHost (scheme : String) (cs : List Char) : Except UrlFault Host :=
  if isWeb scheme && cs.isEmpty then .error .emptyHost
  else if isWeb scheme then Host.parse cs
  else Host.parseOpaque cs

/-- An authority. Only a host that the scheme can do without may be empty, and not with
user information or a port. -/
def parseAuthority (scheme : String) (cs : List Char) : Except UrlFault UrlAuthority := do
  let (user, rest) := splitUserinfo cs
  if user = some [] && rest.isEmpty then throw .emptyHost
  let (username, password) := userinfo (user.getD [])
  let hostText := rest.take (hostLength false rest)
  let host ← parseHost scheme hostText
  let behind := rest.drop hostText.length
  if hostText.isEmpty && (behind ≠ [] || !username.isEmpty || password.isSome) then
    throw .emptyHost
  let port ← match behind with
    | [] => pure none
    | _ :: digits => port? scheme digits
  pure ⟨username, password, host, port⟩

/-- Query and fragment, which start with their marks. -/
def queryAndFragment (special : Bool) (cs : List Char) : Option (List Char) × Option (List Char) :=
  let set := if special then Percent.webQuery else Percent.query
  let fragmentOf (cs : List Char) : Option (List Char) :=
    match cs with
    | '#' :: rest => some (Percent.encode Percent.fragment rest)
    | _ => none
  match cs with
  | '?' :: rest =>
      (some (Percent.encode set (rest.takeWhile (· ≠ '#'))), fragmentOf (rest.dropWhile (· ≠ '#')))
  | cs => (none, fragmentOf cs)

def isPathEnd (c : Char) : Bool := c = '?' || c = '#'

/-- The path behind an authority. Special schemes have a path in any case. -/
def hierarchicalPath (scheme : String) (cs : List Char) : List Char :=
  let special := isSpecial scheme
  let isSlash (c : Char) : Bool := c = '/' || (special && c = '\\')
  match cs with
  | [] => if special then ['/'] else []
  | c :: rest =>
      UrlPath.text (UrlPath.pushAll (isFile scheme) special [] (if isSlash c then rest else cs))

def withPath (scheme : String) (authority : Option UrlAuthority) (path : List Char)
    (behind : List Char) : Url :=
  let (query, fragment) := queryAndFragment (isSpecial scheme) behind
  { scheme, authority, path, query, fragment }

/-- Authority and all that follows it. -/
def parseAfterSlashes (scheme : String) (cs : List Char) : Except UrlFault Url := do
  let special := isSpecial scheme
  let authority ← parseAuthority scheme (cs.takeWhile (!endsPart special ·))
  let rest := cs.dropWhile (!endsPart special ·)
  let path := hierarchicalPath scheme (rest.takeWhile (!isPathEnd ·))
  pure (withPath scheme (some authority) path (rest.dropWhile (!isPathEnd ·)))

/-- Paths of files have no empty segments in front. -/
def filePath (cs : List Char) : List Char :=
  let segs := UrlPath.pushAll true true [] cs
  '/' :: (UrlPath.text segs).dropWhile (· = '/')

def startsWithDrive (cs : List Char) : Bool :=
  UrlPath.isNormalDrive ((cs.drop 1).take 2) && ((cs.drop 3).isEmpty || cs[3]? = some '/')

/-- The URL of a file; the local host is not named. -/
def parseFile (cs : List Char) : Except UrlFault Url := do
  let isSlash (c : Char) : Bool := c = '/' || c = '\\'
  let build (host : Host) (cs : List Char) : Url :=
    let path := filePath (cs.takeWhile (!isPathEnd ·))
    let host := if startsWithDrive path then .domain "" else host
    withPath "file" (some ⟨[], none, host, none⟩) path (cs.dropWhile (!isPathEnd ·))
  match cs with
  | a :: b :: rest =>
      if isSlash a && isSlash b then
        let hostText := rest.takeWhile (!endsPart true ·)
        let behind := rest.dropWhile (!endsPart true ·)
        let inner := if behind.head?.any isSlash then behind.drop 1 else behind
        if UrlPath.isDrive hostText then pure (build (.domain "") rest)
        else if hostText.isEmpty then pure (build (.domain "") inner)
        else
          let host ← Host.parse hostText
          pure (build (if host = .domain "localhost" then .domain "" else host) inner)
      else pure (build (.domain "") (if isSlash a then b :: rest else cs))
  | [a] => pure (build (.domain "") (if isSlash a then [] else cs))
  | [] => pure (build (.domain "") [])

/-- A URL of a scheme without hosts of its own. -/
def parseGeneric (scheme : String) (cs : List Char) : Except UrlFault Url :=
  match cs with
  | '/' :: '/' :: rest => parseAfterSlashes scheme rest
  | '/' :: rest =>
      let path := UrlPath.text (UrlPath.pushAll false false [] (rest.takeWhile (!isPathEnd ·)))
      .ok (withPath scheme none path (rest.dropWhile (!isPathEnd ·)))
  | cs =>
      let path := Percent.encode Percent.controls (cs.takeWhile (!isPathEnd ·))
      .ok (withPath scheme none path (cs.dropWhile (!isPathEnd ·)))

def parse (s : String) : Except UrlFault Url :=
  match splitScheme? (clean s.toList) with
  | none => .error .relativeWithoutBase
  | some (scheme, rest) =>
      if isFile scheme then parseFile rest
      else if isWeb scheme then
        parseAfterSlashes scheme (rest.dropWhile fun c => c = '/' || c = '\\')
      else parseGeneric scheme rest

def authorityText (a : UrlAuthority) : String :=
  let user := String.ofList a.username ++ (match a.password with
    | some p => ":" ++ String.ofList p
    | none => "")
  (if user.isEmpty then "" else user ++ "@") ++ a.host.text ++
    (match a.port with | some p => ":" ++ toString p | none => "")

/-- The URL in its normal form. -/
def text (u : Url) : String :=
  let path := String.ofList u.path
  let front := match u.authority with
    | some a => "//" ++ authorityText a
    | none => if path.startsWith "//" then "/." else ""
  let query := match u.query with | some q => "?" ++ String.ofList q | none => ""
  let fragment := match u.fragment with | some f => "#" ++ String.ofList f | none => ""
  u.scheme ++ ":" ++ front ++ path ++ query ++ fragment

def host? (u : Url) : Option Host := u.authority.map (·.host)

/-- The port, or the one that the scheme implies. -/
def portOrDefault? (u : Url) : Option Nat :=
  match u.authority.bind (·.port) with
  | some p => some p
  | none => defaultPort? u.scheme

end Url

end Gateway
