import Gateway.Body.Reader
import Gateway.Chain
import Gateway.Failover
import Gateway.Outbound
import Gateway.Pool.Basic

/-!
# Locations

A location is a named group of endpoints with the settings that its requests are handled
by. Its `Site` is everything about it that changes while requests pass through: the
clock, the pool with the counts of its endpoints, the chains of handlers, the numbers
still to be drawn and whatever the handlers share.

Middlewares and observers are given by labels; `Handlers` says what a label does. A
middleware may change the request and the site, an observer only the site.
-/

namespace Gateway

structure Location where
  name : String
  failover : FailoverPolicy := {}
  trustForwarded : Bool := false
  bodyLimits : Option BodyLimits := none
  deriving DecidableEq, Repr

structure Site (β μ ο σ : Type) where
  now : Nat
  pool : β
  ledger : Ledger
  middlewares : Chain μ
  observers : Chain ο
  draws : Draws
  shared : σ

/-- What a middleware does with a request: let it pass, answer it, or break down. -/
inductive Verdict where
  | pass
  | respond (r : Response)
  | reject (r : Rejection)
  | crash

/-- What handlers do, by their labels and the names they go by in their chains. -/
structure Handlers (β μ ο σ : Type) where
  onRequest : String × μ → Request → Site β μ ο σ → Verdict × Request × Site β μ ο σ
  onResponse : String × μ → Request → Attempt → Site β μ ο σ → Request × Site β μ ο σ
  seeRequest : String × ο → Request → Site β μ ο σ → Site β μ ο σ
  seeResponse : String × ο → Request → Attempt → Site β μ ο σ → Site β μ ο σ
  seeFailure : String × ο → Request → Error → Site β μ ο σ → Site β μ ο σ

namespace Site

variable {β μ ο σ : Type} [Balancer β]

def pick (s : Site β μ ο σ) : Except Error Member × Site β μ ο σ :=
  let (r, pool) := Balancer.next s.pool
  (r, { s with pool })

/-- Adds an endpoint to the pool under a serial number of its own. -/
def addEndpoint (e : Endpoint) (s : Site β μ ο σ) : Except Error (Site β μ ο σ) :=
  (Balancer.add ⟨s.ledger.next, e⟩ s.pool).map fun pool =>
    { s with pool, ledger := s.ledger.enrol }

def removeEndpoint (id : String) (s : Site β μ ο σ) : Except Error (Site β μ ο σ) :=
  (Balancer.remove id s.pool).map fun pool => { s with pool }

/-- The endpoints of the pool and their counts. -/
def counters (s : Site β μ ο σ) : List (String × Tally) :=
  (Balancer.members s.pool).map fun m => (m.id, s.ledger.get m.serial)

def startAttempt (m : Member) (s : Site β μ ο σ) : Site β μ ο σ :=
  { s with ledger := s.ledger.modify m.serial Tally.start }

def finishAttempt (m : Member) (success : Bool) (s : Site β μ ο σ) : Site β μ ο σ :=
  { s with ledger := s.ledger.modify m.serial (Tally.finish success) }

end Site

end Gateway
