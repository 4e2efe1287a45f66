import Gateway.Error.Basic
import Gateway.Pool.Basic
import Gateway.Request
import Gateway.Response

/-!
# Attempts

An attempt is one try to answer a request by one endpoint. It ends in a response or an
error; if a middleware gave that answer, the attempt is intercepted and no backend has
seen it.
-/

namespace Gateway

/-- How a try ends. -/
abbrev Outcome := Except Error Response

structure Attempt where
  endpoint : Endpoint
  outcome : Outcome
  duration : Nat
  intercepted : Bool

namespace Attempt

def status? (a : Attempt) : Option Status :=
  match a.outcome with
  | .ok r => some r.status
  | .error _ => none

def error? (a : Attempt) : Option Error :=
  match a.outcome with
  | .ok _ => none
  | .error e => some e

def summary (a : Attempt) : AttemptSummary where
  endpoint := a.endpoint.id
  status := a.status?
  error := a.error?.map Error.message
  duration := a.duration
  intercepted := a.intercepted

end Attempt

/-- A try that ended in a response other than a server error. -/
def Outcome.isSuccess : Outcome → Bool
  | .ok r => !r.status.isServerError
  | .error _ => false

end Gateway
