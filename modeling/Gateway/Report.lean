import Gateway.Breaker
import Gateway.Http.Framing
import Gateway.Outbound
import Gateway.Pool.Tally

/-!
# Reports

What the gateway tells about errors, attempts and messages, as JSON values.
-/

namespace Gateway

namespace Report

def hexDigits (b : UInt8) : List Char :=
  let digit (n : Nat) : Char := (Nat.toDigits 16 n).headD '0'
  [digit (b.toNat / 16), digit (b.toNat % 16)]

/-- Octets as text if they are text, else in hexadecimal. -/
def octets (b : Bytes) : Json :=
  match Utf8.decode b with
  | some s => .str s
  | none => .ofFields [("hex", .str (String.ofList (b.flatMap hexDigits)))]

def headers (h : Headers) : Json :=
  .arr (h.sorted.map fun (n, v) => .arr [.str n.text, octets v])

end Report

/-- What kind of error it is. -/
def Error.kind : Error → String
  | .rejected (.http ..) => "http"
  | .rejected (.retry _) => "retry"
  | .noEndpoint => "no_available_endpoints"
  | .endpointExists _ => "endpoint_exists"
  | .endpointUnknown _ => "endpoint_not_found"
  | .invalidEndpoint .. => "invalid_endpoint"
  | .nameTaken _ => "duplicate_name"
  | .nameUnknown _ => "not_found"
  | .transport _ => "transport"
  | .timeout _ => "timeout"
  | .internal _ => "internal"

namespace Report

/-- The kind of an error with its message. -/
def fault (kind message : String) : Json :=
  .ofFields [("error", .str kind), ("message", .str message)]

def error (e : Error) : Json :=
  fault e.kind e.message

/-- What an operation without a value came to. -/
def done : Except Error α → Json
  | .ok _ => .str "ok"
  | .error e => error e

def rejection (r : Rejection) : Json :=
  let shared := [("status", Json.ofNat r.status.code), ("message", .str r.message),
    ("display", .str r.text), ("retry_seconds", .ofOption .ofNat r.retrySeconds?)]
  match r with
  | .http _ _ body => .ofFields (("kind", .str "http") :: ("body", .ofOption octets body) :: shared)
  | .retry _ => .ofFields (("kind", .str "retry") :: shared)

def attempt (a : AttemptSummary) : Json :=
  .ofFields [
    ("endpoint", .str a.endpoint),
    ("status", .ofOption (fun s => .ofNat s.code) a.status),
    ("error", .ofOption .str a.error),
    ("duration_ns", .ofNat a.duration),
    ("intercepted", .bool a.intercepted)]

/-- Status, headers and body; the fault of a body that broke off comes with it. -/
def response (r : Response) : Json :=
  let fault := match r.payload.error with
    | some e => [("body_error", Json.str e.message)]
    | none => []
  .ofFields ([("status", .ofNat r.status.code), ("headers", headers r.headers),
    ("body", octets r.payload.data)] ++ fault)

def outcome : Outcome → Json
  | .ok r => response r
  | .error e => error e

def breaker (b : Breaker) : Json :=
  .ofFields [
    ("state", .str b.circuit.text),
    ("total", .ofNat b.total),
    ("failed", .ofNat b.failed),
    ("failure_count", .ofNat b.failures),
    ("success_count", .ofNat b.successes)]

def tally (id : String) (t : Tally) : Json :=
  .arr [.str id, .ofNat t.active, .ofNat t.total, .ofNat t.failed]

end Report

/-- An attempt in one line. -/
def Attempt.text (a : Attempt) : String :=
  let result := match a.outcome with
    | .ok r => toString r.status.code
    | .error e => e.message
  a.endpoint.id ++ " " ++ result ++ (if a.intercepted then " intercepted" else "")

end Gateway
