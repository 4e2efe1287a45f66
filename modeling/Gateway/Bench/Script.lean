import Gateway.Attempt
import Gateway.Bench.Backend
import Gateway.Breaker
import Gateway.Config.Basic

/-!
# Scripts of a bench

What middlewares and observers do on a bench. A middleware may run a script for each
request that it sees and for each attempt that it is told of; such a script can change
the request, and the location itself while requests are on their way.
-/

namespace Gateway.Bench

/-- What a middleware answers a request. -/
inductive Answer where
  | pass
  | respond (r : Response)
  | reject (r : Rejection)

inductive ObserverScript where
  | metrics (location : String)
  /-- Takes note of requests and attempts. -/
  | bare
  /-- Takes note of what it is set up for. -/
  | hooks (request response failure : Bool)

mutual

/-- Changes of a location, and questions to it. -/
inductive SiteAction where
  | advance (nanos : Nat)
  | addEndpoint (url : String)
  | removeEndpoint (id : String)
  | nextEndpoint
  | appendMiddleware (name : String) (m : MiddlewareScript)
  | updateMiddleware (name : String) (m : MiddlewareScript)
  | removeMiddleware (name : String)
  | appendObserver (name : String) (o : ObserverScript)
  | removeObserver (name : String)
  | breaker (name : String)
  | metrics

/-- What a script does in one step. -/
inductive HookAction where
  | site (label : String) (a : SiteAction)
  | setAttribute (key : String) (value : Json)
  | removeAttribute (key : String)
  | setHeader (name : Option FieldName) (value : Bytes)
  | removeHeader (name : Option FieldName)
  | setBody (body : Bytes)
  | logAttribute (key : String)
  | logAttempts
  | unknown (label : String)

/-- The script for one request. -/
inductive Call where
  | mk (actions : List HookAction) (answer : Answer)

/-- Settings that do not fit are kept as none. -/
inductive MiddlewareScript where
  | limiter (s : Option LimitSettings)
  | breaker (s : Option BreakerSettings)
  | hooks (request : Option (List Call)) (response : Option (List HookAction))

end

/-- How a middleware with scripts was put in: its scripts, and its place among all that
were. -/
structure Installed where
  request : Option (List Call)
  response : Option (List HookAction)
  slot : Nat

/-- What a scripted pool does when it is asked. -/
inductive Offer where
  | member (index : Nat)
  | nobody
  | giveUp
  deriving DecidableEq, Repr

end Gateway.Bench
