import Gateway.Http.Headers
import Gateway.Http.Method
import Gateway.Http.Status
import Gateway.Http.Uri
import Gateway.Json.Basic
import Gateway.Net.Socket

/-!
# Requests

A request as routers, locations and handlers see it. The body is complete, so that every
attempt sends the same octets. Handlers share attributes through the request, and it
keeps a summary of every attempt made for it.
-/

namespace Gateway

inductive Version where
  | http10
  | http11
  | http2
  deriving DecidableEq, Repr

def Version.text : Version → String
  | .http10 => "HTTP/1.0"
  | .http11 => "HTTP/1.1"
  | .http2 => "HTTP/2.0"

/-- What is remembered of an attempt. -/
structure AttemptSummary where
  endpoint : String
  status : Option Status
  error : Option String
  duration : Nat
  intercepted : Bool
  deriving DecidableEq, Repr

structure Request where
  id : Nat
  method : Method
  uri : Uri
  version : Version
  headers : Headers
  peer : Option SocketAddress
  body : Bytes := []
  attributes : List (String × Json) := []
  attempts : List AttemptSummary := []

namespace Request

/-- The text of a header field, if it has visible characters only. -/
def headerText? (r : Request) (n : FieldName) : Option (List Char) :=
  (r.headers.get? n).bind FieldValue.visible?

/-- The host that the client asked for, by its target or else by its host field. -/
def host? (r : Request) : Option String :=
  match r.uri.host? with
  | some h => some h
  | none => (r.headerText? .host).map String.ofList

def attribute? (r : Request) (key : String) : Option Json :=
  (r.attributes.find? (·.1 = key)).map (·.2)

def removeAttribute (r : Request) (key : String) : Request :=
  { r with attributes := r.attributes.filter (·.1 ≠ key) }

def setAttribute (r : Request) (key : String) (v : Json) : Request :=
  { r with attributes := (key, v) :: r.attributes.filter (·.1 ≠ key) }

def record (r : Request) (s : AttemptSummary) : Request :=
  { r with attempts := r.attempts ++ [s] }

/-- The address of the client, by which it is limited. -/
def clientKey (r : Request) : String :=
  match r.peer with
  | some a => a.ip.text
  | none => "unknown"

def text (r : Request) : String :=
  "Request(id=" ++ toString r.id ++ ", " ++ r.method.name ++ " " ++ r.uri.text ++ ")"

end Request

end Gateway
