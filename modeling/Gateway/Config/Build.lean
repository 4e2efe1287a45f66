import Gateway.Config.Basic
import Gateway.Endpoint
import Gateway.Location.Builtin
import Gateway.Pool.Rotation
import Gateway.Route

/-!
# Gateways from configurations

A location is built with its pool, the middlewares it asks for and an observer for the
metrics. The breaker comes before the limiter, so that an open circuit costs no tokens.
-/

namespace Gateway

/-- A location with what it keeps between requests. -/
structure Branch (β ξ ζ : Type) where
  location : Location
  options : LocationOptions
  pool : β
  ledger : Ledger
  middlewares : Chain (Middleware ξ) := .empty
  observers : Chain (Observer ζ) := .empty

def LocationOptions.location (o : LocationOptions) (name : String) : Location where
  name := name
  failover := o.failover
  trustForwarded := o.trustForwarded
  bodyLimits := o.bodyLimits

namespace Branch

variable {β ξ ζ τ : Type}

/-- The site of a location for some time, with what it shares with others. -/
def site (b : Branch β ξ ζ) (now : Nat) (draws : Draws) (shared : Store τ) : Workplace β ξ ζ τ where
  now := now
  pool := b.pool
  ledger := b.ledger
  middlewares := b.middlewares
  observers := b.observers
  draws := draws
  shared := shared

/-- The location as the site leaves it. -/
def ofSite (b : Branch β ξ ζ) (s : Workplace β ξ ζ τ) : Branch β ξ ζ :=
  { b with pool := s.pool, ledger := s.ledger, middlewares := s.middlewares,
           observers := s.observers }

end Branch

def LimitSettings.limit (s : LimitSettings) : Limit Float :=
  ⟨s.rate, Float.ofNat s.burst⟩

namespace LocationSettings

variable {ξ ζ τ : Type}

/-- The pool of the endpoints, which get their places in the ledger. -/
def fillPool : List String → Rotation → Ledger → Except Error (Rotation × Ledger)
  | [], r, l => .ok (r, l)
  | url :: rest, r, l => do
      let e ← Endpoint.parse url
      let r ← r.add ⟨l.next, e⟩
      fillPool rest r l.enrol

def addBreaker (s : LocationSettings) (c : Chain (Middleware ξ)) (t : Store τ) :
    Except Error (Chain (Middleware ξ) × Store τ) :=
  match s.breaker with
  | none => .ok (c, t)
  | some b => do
      let c ← c.append "circuit_breaker" (.breaker b t.breakers.length)
      pure (c, t.addBreaker)

def addLimiter (s : LocationSettings) (c : Chain (Middleware ξ)) (t : Store τ) :
    Except Error (Chain (Middleware ξ) × Store τ) :=
  match s.limit with
  | none => .ok (c, t)
  | some l => do
      let c ← c.append "rate_limit" (.limiter t.limiters.length)
      pure (c, t.addLimiter (LimitSettings.limit l))

def addMetrics (s : LocationSettings) (metrics : Bool) (c : Chain (Observer ζ)) :
    Except Error (Chain (Observer ζ)) :=
  if metrics then c.append "metrics" (.metrics s.name) else .ok c

/-- Builds a location, whose handlers keep their state in the store. -/
def build (s : LocationSettings) (metrics : Bool) (t : Store τ) :
    Except Error (Branch Rotation ξ ζ × Store τ) := do
  let (pool, ledger) ← fillPool s.endpoints .empty .empty
  let (middlewares, t) ← s.addBreaker .empty t
  let (middlewares, t) ← s.addLimiter middlewares t
  let observers ← s.addMetrics metrics .empty
  let options := s.options
  pure ({ location := options.location s.name, options, pool, ledger, middlewares, observers }, t)

end LocationSettings

/-- Locations with the routes that lead to them, by their places in the list. -/
structure Installation (ξ ζ τ : Type) where
  routes : RouteTable Nat := .empty
  branches : List (Branch Rotation ξ ζ) := []
  store : Store τ

namespace Installation

variable {ξ ζ τ : Type}

/-- Builds a location and adds its route. -/
def addLocation (metrics : Bool) (i : Installation ξ ζ τ) (s : LocationSettings) :
    Except Error (Installation ξ ζ τ) := do
  let (b, store) ← s.build metrics i.store
  let routes ← i.routes.add s.host s.pathStart i.branches.length
  pure { routes, branches := i.branches ++ [b], store }

end Installation

/-- Builds all locations in order. -/
def Configuration.build {ξ ζ τ : Type} (c : Configuration) (extra : τ) :
    Except Error (Installation ξ ζ τ) :=
  c.locations.foldlM (Installation.addLocation c.metrics.enabled) { store := { extra } }

end Gateway
