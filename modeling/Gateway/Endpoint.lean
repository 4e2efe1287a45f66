import Gateway.Error.Basic
import Gateway.Url.Basic

/-!
# Endpoints

An endpoint is a server that requests are sent to: a scheme, a host and a port. These
three make up its id; whatever else its URL says does not tell endpoints apart.
-/

namespace Gateway

inductive Scheme where
  | http
  | https
  deriving DecidableEq, Repr

def Scheme.text : Scheme → String
  | .http => "http"
  | .https => "https"

def Scheme.ofString? : String → Option Scheme
  | "http" => some .http
  | "https" => some .https
  | _ => none

structure Endpoint where
  scheme : Scheme
  host : Host
  port : Nat
  url : String
  deriving DecidableEq, Repr

namespace Endpoint

/-- Host and port. -/
def authority (e : Endpoint) : String :=
  e.host.text ++ ":" ++ toString e.port

def id (e : Endpoint) : String :=
  e.scheme.text ++ "://" ++ e.authority

def ofUrl (u : Url) : Except Error Endpoint :=
  match Scheme.ofString? u.scheme with
  | none => .error (.invalidEndpoint u.text "scheme must be http or https")
  | some scheme =>
      match u.host? with
      | none => .error (.invalidEndpoint u.text "missing host")
      | some host =>
          match u.portOrDefault? with
          | none => .error (.invalidEndpoint u.text "missing port")
          | some port => .ok ⟨scheme, host, port, u.text⟩

def parse (s : String) : Except Error Endpoint :=
  match Url.parse s with
  | .error e => .error (.invalidEndpoint s e.message)
  | .ok u => ofUrl u

end Endpoint

end Gateway
