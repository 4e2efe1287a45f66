import Gateway.Config.Basic
import Gateway.Endpoint

/-!
# Valid configurations

Which configurations are refused, and why. Locations are looked at in order, and the
first fault counts.
-/

namespace Gateway

/-- What is wrong with a location. -/
inductive LocationFault where
  | noEndpoints
  | endpoint (e : Error)
  | noAttempts
  | status (code : Nat)
  | limit
  | breaker
  deriving DecidableEq, Repr

def LocationFault.message : LocationFault → String
  | .noEndpoints => "no endpoints configured"
  | .endpoint e => e.message
  | .noAttempts => "failover.max_attempts must be at least 1"
  | .status code => toString code ++ " is not a valid HTTP status"
  | .limit => "rate_limit needs positive requests_per_second and burst"
  | .breaker => "circuit_breaker thresholds must be positive"

inductive ConfigFault where
  | noLocations
  | duplicateName (name : String)
  | location (name : String) (f : LocationFault)
  deriving DecidableEq, Repr

def ConfigFault.message : ConfigFault → String
  | .noLocations => "at least one location must be configured"
  | .duplicateName name => "duplicate location name " ++ Quoted.quote name
  | .location name f => "invalid location " ++ Quoted.quote name ++ ": " ++ f.message

def LimitSettings.isValid (s : LimitSettings) : Bool :=
  0.0 < s.rate && s.burst ≠ 0

def BreakerSettings.isValid (s : BreakerSettings) : Bool :=
  s.failureThreshold ≠ 0 && s.successThreshold ≠ 0

namespace LocationSettings

/-- The first of the endpoints that is none. -/
def endpointFault? : List String → Option Error
  | [] => none
  | url :: rest =>
      match Endpoint.parse url with
      | .ok _ => endpointFault? rest
      | .error e => some e

/-- The first fault of a location. -/
def fault? (s : LocationSettings) : Option LocationFault :=
  if s.endpoints.isEmpty then some .noEndpoints
  else
    match endpointFault? s.endpoints with
    | some e => some (.endpoint e)
    | none =>
        if s.failover.maxAttempts = some 0 then some .noAttempts
        else
          match s.failover.retryableStatuses.find? fun n => (Status.ofNat? n).isNone with
          | some n => some (.status n)
          | none =>
              if s.limit.any fun l => !l.isValid then some .limit
              else if s.breaker.any fun b => !b.isValid then some .breaker
              else none

end LocationSettings

namespace Configuration

/-- The first fault of the locations, whose names must not be among those `seen`. -/
def faultAmong? (seen : List String) : List LocationSettings → Option ConfigFault
  | [] => none
  | s :: rest =>
      if seen.contains s.name then some (.duplicateName s.name)
      else
        match s.fault? with
        | some f => some (.location s.name f)
        | none => faultAmong? (s.name :: seen) rest

def fault? (c : Configuration) : Option ConfigFault :=
  if c.locations.isEmpty then some .noLocations else faultAmong? [] c.locations

/-- Succeeds on configurations without a fault. -/
def validate (c : Configuration) : Except ConfigFault Unit :=
  match c.fault? with
  | some f => .error f
  | none => .ok ()

end Configuration

end Gateway
