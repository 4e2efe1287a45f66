import Gateway.Error.Format
import Gateway.Json.Reader

/-!
# Errors as objects

Control layers outside of the gateway exchange errors as JSON objects with the fields
`type`, `code`, `message`, `body` and, for retries, `retry-seconds`. Objects that do not
fit are refused with the first reason found, never bent into shape.
-/

namespace Gateway

/-- Why an object is not an error. -/
inductive FieldsError where
  | notAnObject
  | missingCode
  | codeNotInteger
  | invalidStatus (code : Int)
  | messageNotString
  | missingBody
  | missingRetrySeconds
  | retrySecondsNotInteger
  deriving DecidableEq, Repr

def FieldsError.message : FieldsError → String
  | .notAnObject => "Unsupported error type, expected an object"
  | .missingCode => "Expected 'code' parameter"
  | .codeNotInteger => "Parameter 'code' should be integer"
  | .invalidStatus n => "Parameter 'code' is not a valid HTTP status: " ++ toString n
  | .messageNotString => "Parameter 'message' should be a string"
  | .missingBody => "Expected 'body' parameter"
  | .missingRetrySeconds => "Expected 'retry-seconds' parameter"
  | .retrySecondsNotInteger => "Parameter 'retry-seconds' should be a non-negative integer"

/-- The body of a rejection as JSON; what is no JSON becomes a string. -/
def Rejection.bodyValue (body : Bytes) : Json :=
  (Json.readBytes? body).getD (.str (Utf8.decodeLossy body))

def Rejection.fields : Rejection → Json
  | .retry n =>
      let text := Status.tooManyRequests.reason
      .ofFields [("type", .str "retry"), ("retry-seconds", .ofNat n),
        ("code", .ofNat Status.tooManyRequests.code), ("message", .str text), ("body", .str text)]
  | .http s m body =>
      .ofFields [("type", .str "http"), ("code", .ofNat s.code), ("message", .str m),
        ("body", Json.ofOption bodyValue body)]

def Error.fields : Error → Json
  | .rejected r => r.fields
  | e =>
      .ofFields [("type", .str "internal"), ("code", .ofNat Status.internalServerError.code),
        ("body", .str Status.internalServerError.reason), ("message", .str e.message)]

namespace Rejection

/-- Integers read from numbers end here, and a larger one is cut off. -/
def maxInteger : Int := Nat.pow 2 63 - 1

/-- A number without a fraction. Numbers above the limit pass through floating point
and are taken only up to the limit's next power of two. -/
def integer? : Json → Option Int
  | .int n =>
      if n ≤ maxInteger then some n
      else if roundToBinary64 n.toNat ≤ Nat.pow 2 63 then some maxInteger
      else none
  | .real x =>
      match (Dyadic.ofFloat? x).bind Dyadic.toInt? with
      | some n => if -maxInteger - 1 ≤ n && n ≤ maxInteger + 1 then some (min n maxInteger) else none
      | none => none
  | _ => none

def statusOf? (n : Int) : Option Status :=
  if 0 ≤ n then Status.ofNat? n.toNat else none

/-- Reads the status. -/
def readStatus (v : Json) : Except FieldsError Status :=
  match v.field? "code" with
  | none => .error .missingCode
  | some code =>
      match integer? code with
      | none => .error .codeNotInteger
      | some n =>
          match statusOf? n with
          | some s => .ok s
          | none => .error (.invalidStatus n)

/-- Reads the message; the reason phrase stands in for one that is missing. -/
def readMessage (s : Status) (v : Json) : Except FieldsError String :=
  match v.field? "message" with
  | none => .ok s.reason
  | some (.str m) => .ok m
  | some _ => .error .messageNotString

/-- Reads the body, which must be given; null is no body. -/
def readBody (v : Json) : Except FieldsError (Option Bytes) :=
  match v.field? "body" with
  | none => .error .missingBody
  | some .null => .ok none
  | some b => .ok (some (Formatter.encode b))

def readSeconds (v : Json) : Except FieldsError Nat :=
  match v.field? "retry-seconds" with
  | none => .error .missingRetrySeconds
  | some n =>
      match integer? n with
      | some n => if 0 ≤ n then .ok n.toNat else .error .retrySecondsNotInteger
      | none => .error .retrySecondsNotInteger

def isRetryType (v : Json) : Bool :=
  (v.field? "type").bind Json.asString? = some "retry"

def ofFields (v : Json) : Except FieldsError Rejection :=
  match v with
  | .obj _ => do
      let s ← readStatus v
      let m ← readMessage s v
      let b ← readBody v
      if isRetryType v then
        let n ← readSeconds v
        pure (.retry n)
      else pure (.http s m b)
  | _ => .error .notAnObject

end Rejection

end Gateway
