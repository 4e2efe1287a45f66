import Gateway.Body.Reader
import Gateway.Breaker
import Gateway.Failover
import Gateway.Net.Socket
import Gateway.Text.Quoted

/-!
# Configuration

What an operator writes down: where to listen, and which locations there are. Times are
in milliseconds.
-/

namespace Gateway

/-- How locations pick their endpoints. -/
inductive Algorithm where
  | rotation
  deriving DecidableEq, Repr

def Algorithm.word : Algorithm → String
  | .rotation => "round_robin"

def Algorithm.ofWord? (w : String) : Option Algorithm :=
  if w = Algorithm.rotation.word then some .rotation else none

structure LimitSettings where
  rate : Float
  burst : Nat

structure LocationSettings where
  name : String
  host : Option String := none
  pathStart : String := "/"
  endpoints : List String
  algorithm : Algorithm := .rotation
  trustForwarded : Bool := false
  maxBodyBytes : Option Nat := none
  bodyReadTimeout : Option Nat := none
  backendTimeout : Nat := 30000
  connectTimeout : Nat := 5000
  failover : FailoverPolicy := {}
  limit : Option LimitSettings := none
  breaker : Option BreakerSettings := none

structure MetricsSettings where
  enabled : Bool := true
  port : Nat := 9090
  path : String := "/metrics"
  deriving DecidableEq, Repr

structure Configuration where
  listen : SocketAddress := ⟨.v4 .unspecified, 0, 8080⟩
  logLevel : String := "info"
  metrics : MetricsSettings := {}
  locations : List LocationSettings

/-- What a location takes from its settings for its own use. -/
structure LocationOptions where
  trustForwarded : Bool := false
  maxBodyBytes : Option Nat := none
  bodyReadTimeout : Option Nat := none
  backendTimeout : Option Nat := some 30000
  connectTimeout : Option Nat := some 5000
  failover : FailoverPolicy := {}
  deriving DecidableEq, Repr

namespace LocationOptions

/-- A location reads bodies itself if it has a limit for them. -/
def bodyLimits (o : LocationOptions) : Option BodyLimits :=
  if o.maxBodyBytes.isSome || o.bodyReadTimeout.isSome then
    some ⟨o.maxBodyBytes, o.bodyReadTimeout.map Duration.ofMillis⟩
  else none

end LocationOptions

/-- A time of zero is no limit. -/
def positive? (millis : Nat) : Option Nat :=
  if millis = 0 then none else some millis

def LocationSettings.options (s : LocationSettings) : LocationOptions where
  trustForwarded := s.trustForwarded
  maxBodyBytes := s.maxBodyBytes
  bodyReadTimeout := s.bodyReadTimeout.bind positive?
  backendTimeout := positive? s.backendTimeout
  connectTimeout := positive? s.connectTimeout
  failover := s.failover

end Gateway
