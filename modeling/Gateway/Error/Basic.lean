import Gateway.Duration
import Gateway.Http.Method
import Gateway.Http.Status
import Gateway.Text.Utf8

/-!
# Errors

A `Rejection` is what a client is told: a status with a message and perhaps a body, or
the advice to come back later. An `Error` is anything that goes wrong on the way to a
response; `Error.rejection` says what the client is told about it.
-/

namespace Gateway

inductive Rejection where
  | http (status : Status) (message : String) (body : Option Bytes)
  | retry (seconds : Nat)
  deriving DecidableEq, Repr

namespace Rejection

/-- The message is the reason phrase and there is no body. -/
def ofStatus (s : Status) : Rejection :=
  .http s s.reason none

def status : Rejection → Status
  | .http s _ _ => s
  | .retry _ => .tooManyRequests

def message : Rejection → String
  | .http _ m _ => m
  | .retry _ => Status.tooManyRequests.reason

def retrySeconds? : Rejection → Option Nat
  | .http .. => none
  | .retry n => some n

/-- One line for people. -/
def text : Rejection → String
  | .http s m _ => toString s.code ++ " " ++ m
  | .retry n => "too many requests, retry in " ++ toString n ++ "s"

end Rejection

/-- Why an exchange with a backend broke. -/
inductive TransportError where
  | refused
  | closed
  | version
  | status
  | header
  | contentLength
  | transferEncoding
  | tooLarge
  deriving DecidableEq, Repr

namespace TransportError

/-- The connection was never established, so the backend has seen nothing. -/
def isConnect (e : TransportError) : Bool :=
  e = .refused

def message : TransportError → String
  | .refused => "error trying to connect: connection refused"
  | .closed => "connection closed before message completed"
  | .version => "invalid HTTP version parsed"
  | .status => "invalid HTTP status-code parsed"
  | .header => "invalid HTTP header parsed"
  | .contentLength => "invalid content-length parsed"
  | .transferEncoding => "unexpected transfer-encoding parsed"
  | .tooLarge => "message head is too large"

end TransportError

inductive Error where
  | rejected (r : Rejection)
  | noEndpoint
  | endpointExists (id : String)
  | endpointUnknown (id : String)
  | invalidEndpoint (url reason : String)
  | nameTaken (name : String)
  | nameUnknown (name : String)
  | transport (e : TransportError)
  | timeout (nanos : Nat)
  | internal (message : String)
  deriving DecidableEq, Repr

namespace Error

def message : Error → String
  | .rejected r => r.text
  | .noEndpoint => "No available endpoints"
  | .endpointExists id => "Endpoint " ++ id ++ " already exists"
  | .endpointUnknown id => "Endpoint " ++ id ++ " not found"
  | .invalidEndpoint url reason => "Invalid endpoint " ++ url ++ ": " ++ reason
  | .nameTaken name => "Chain entry " ++ name ++ " already exists"
  | .nameUnknown name => "Chain entry " ++ name ++ " not found"
  | .transport e => "Transport error: " ++ e.message
  | .timeout nanos => "Backend did not respond within " ++ Duration.text nanos
  | .internal message => "Internal error: " ++ message

/-- The exchange with the backend failed. -/
def isTransport : Error → Bool
  | .transport _ => true
  | .timeout _ => true
  | _ => false

/-- Whether another endpoint may be asked: the backend has not seen the request, or may
see it twice, or did not answer in time. -/
def isRetryable (m : Method) : Error → Bool
  | .transport e => e.isConnect || m.isIdempotent
  | .timeout _ => true
  | _ => false

/-- What the client is told. -/
def rejection : Error → Rejection
  | .rejected r => r
  | .internal _ => .ofStatus .internalServerError
  | _ => .ofStatus .badGateway

end Error

end Gateway
