import Gateway.Attempt

/-!
# Requests to backends

The request that an endpoint is sent: the client's target under the endpoint's
authority, the headers that are meant for the other end, and headers that tell the
backend where the request came from.
-/

namespace Gateway

structure Outbound where
  method : Method
  uri : Uri
  version : Version
  headers : Headers
  body : Bytes
  deriving DecidableEq, Repr

namespace Outbound

/-- Headers that concern a single connection only. -/
def hopByHop : List FieldName :=
  [⟨"connection"⟩, ⟨"keep-alive"⟩, ⟨"proxy-authenticate"⟩, ⟨"proxy-authorization"⟩, ⟨"te"⟩,
    ⟨"trailer"⟩, ⟨"transfer-encoding"⟩, ⟨"upgrade"⟩]

def isBlank (c : Char) : Bool := c = ' ' || c = '\t'

def trim (cs : List Char) : List Char :=
  ((cs.dropWhile isBlank).reverse.dropWhile isBlank).reverse

/-- The names in one line of a connection field. A line with other than visible
characters names nothing. -/
def listedNames (v : Bytes) : List FieldName :=
  match FieldValue.visible? v with
  | some cs => (cs.splitOn ',').filterMap fun part => FieldName.ofChars? (trim part)
  | none => []

/-- The headers that the connection fields name. -/
def connectionNames (h : Headers) : List FieldName :=
  (h.getAll .connection).flatMap listedNames

def eraseAll (names : List FieldName) (h : Headers) : Headers :=
  names.foldl Headers.erase h

/-- The headers that go beyond this connection. -/
def endToEnd (h : Headers) : Headers :=
  (eraseAll hopByHop (eraseAll (connectionNames h) h)).erase .contentLength

def forwardedNames : List FieldName :=
  [.forwardedFor, .forwardedProto, .forwardedHost]

/-- The addresses that the request came by: those it named and the client's own. -/
def forwardedFor (h : Headers) (ip : String) : String :=
  match (h.get? .forwardedFor).bind FieldValue.visible? with
  | some (c :: cs) => String.ofList (c :: cs) ++ ", " ++ ip
  | _ => ip

def addClient (r : Request) (h : Headers) : Headers :=
  match r.peer with
  | some a => h.insert .forwardedFor (Utf8.encode (forwardedFor h a.ip.text))
  | none => h

def addProto (r : Request) (h : Headers) : Headers :=
  if h.contains .forwardedProto then h
  else h.insert .forwardedProto (Utf8.encode (r.uri.scheme.getD "http"))

def addHost (r : Request) (h : Headers) : Headers :=
  if h.contains .forwardedHost then h
  else
    match r.headers.get? .host with
    | some v => h.insert .forwardedHost v
    | none => h

/-- Tells where the request came from. What it says itself counts only if trusted. -/
def addForwarded (r : Request) (trust : Bool) (h : Headers) : Headers :=
  let h := if trust then h else eraseAll forwardedNames h
  addHost r (addProto r (addClient r h))

/-- The path and query of the client's target; a target without them is the root. -/
def target (r : Request) : String :=
  match r.uri.pathAndQuery? with
  | some p => p.text
  | none => "/"

/-- The request for an endpoint, unless its target makes no URI there. Whatever the client
speaks, an endpoint is spoken to in the same version. -/
def ofRequest (r : Request) (e : Endpoint) (trust : Bool) : Except Error Outbound :=
  match Uri.ofString (e.id ++ target r) with
  | .error f => .error (.internal f.message)
  | .ok uri =>
      .ok { method := r.method, uri, version := .http11,
            headers := addForwarded r trust (endToEnd r.headers), body := r.body }

end Outbound

end Gateway
