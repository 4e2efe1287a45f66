import Gateway.Breaker
import Gateway.Limit.Limiter
import Gateway.Location.Flight
import Gateway.Metrics

/-!
# Built-in handlers

Circuit breakers, rate limiters and the observer that keeps the metrics. Their state is
in a `Store`; a breaker or limiter is known by its place in there. Other handlers are
labels of types `ξ` and `ζ` whose meaning is given from outside.
-/

namespace Gateway

inductive Middleware (ξ : Type) where
  | breaker (settings : BreakerSettings) (slot : Nat)
  | limiter (slot : Nat)
  | custom (x : ξ)
  deriving DecidableEq, Repr

inductive Observer (ζ : Type) where
  | metrics (location : String)
  | custom (z : ζ)
  deriving DecidableEq, Repr

/-- What handlers remember; `extra` belongs to those that are not built in. -/
structure Store (τ : Type) where
  breakers : List Breaker := []
  limiters : List (Limiter Float) := []
  metrics : Metrics := .empty
  extra : τ

namespace Store

variable {τ : Type}

def addBreaker (s : Store τ) : Store τ :=
  { s with breakers := s.breakers ++ [Breaker.fresh] }

def addLimiter (l : Limit Float) (s : Store τ) : Store τ :=
  { s with limiters := s.limiters ++ [Limiter.ofLimit l] }

def breaker (s : Store τ) (slot : Nat) : Breaker :=
  s.breakers[slot]?.getD .fresh

def setBreaker (slot : Nat) (b : Breaker) (s : Store τ) : Store τ :=
  { s with breakers := s.breakers.set slot b }

def setLimiter (slot : Nat) (l : Limiter Float) (s : Store τ) : Store τ :=
  { s with limiters := s.limiters.set slot l }

end Store

/-- The site of a location whose handlers may be built in. -/
abbrev Workplace (β ξ ζ τ : Type) := Site β (Middleware ξ) (Observer ζ) (Store τ)

namespace Builtin

variable {β ξ ζ τ : Type}

def modifyStore (f : Store τ → Store τ) (s : Workplace β ξ ζ τ) : Workplace β ξ ζ τ :=
  { s with shared := f s.shared }

/-- A breaker that is not open, or open for long enough, lets the request pass. -/
def askBreaker (settings : BreakerSettings) (slot : Nat) (s : Workplace β ξ ζ τ) :
    Verdict × Workplace β ξ ζ τ :=
  let (permitted, b) := (s.shared.breaker slot).permit settings s.now
  (if permitted then .pass else .reject Breaker.rejection, modifyStore (·.setBreaker slot b) s)

def tellBreaker (settings : BreakerSettings) (slot : Nat) (a : Attempt)
    (s : Workplace β ξ ζ τ) : Workplace β ξ ζ τ :=
  modifyStore (·.setBreaker slot ((s.shared.breaker slot).observe settings s.now a)) s

def askLimiter (slot : Nat) (r : Request) (s : Workplace β ξ ζ τ) :
    Verdict × Workplace β ξ ζ τ :=
  match s.shared.limiters[slot]? with
  | none => (.pass, s)
  | some l =>
      let (admission, l) := l.request s.now r.clientKey
      let s := modifyStore (·.setLimiter slot l) s
      match admission with
      | .pass => (.pass, s)
      | .retry seconds => (.reject (.retry seconds), s)
      | .undefined => (.crash, s)

/-- What handlers do that are not built in. -/
structure Custom (β ξ ζ τ : Type) where
  onRequest : String × ξ → Request → Workplace β ξ ζ τ → Verdict × Request × Workplace β ξ ζ τ
  onResponse : String × ξ → Request → Attempt → Workplace β ξ ζ τ → Request × Workplace β ξ ζ τ
  seeRequest : String × ζ → Request → Workplace β ξ ζ τ → Workplace β ξ ζ τ
  seeResponse : String × ζ → Request → Attempt → Workplace β ξ ζ τ → Workplace β ξ ζ τ
  seeFailure : String × ζ → Request → Error → Workplace β ξ ζ τ → Workplace β ξ ζ τ

/-- There are no other handlers. -/
def Custom.none : Custom β Empty Empty τ where
  onRequest _ r s := (.pass, r, s)
  onResponse _ r _ s := (r, s)
  seeRequest _ _ s := s
  seeResponse _ _ _ s := s
  seeFailure _ _ _ s := s

def Custom.handlers (c : Custom β ξ ζ τ) : Handlers β (Middleware ξ) (Observer ζ) (Store τ) where
  onRequest m r s :=
    match m.2 with
    | .breaker settings slot =>
        let (v, s) := askBreaker settings slot s
        (v, r, s)
    | .limiter slot =>
        let (v, s) := askLimiter slot r s
        (v, r, s)
    | .custom x => c.onRequest (m.1, x) r s
  onResponse m r a s :=
    match m.2 with
    | .breaker settings slot => (r, tellBreaker settings slot a s)
    | .limiter _ => (r, s)
    | .custom x => c.onResponse (m.1, x) r a s
  seeRequest o r s :=
    match o.2 with
    | .metrics _ => s
    | .custom z => c.seeRequest (o.1, z) r s
  seeResponse o r a s :=
    match o.2 with
    | .metrics location => modifyStore (fun t => { t with metrics := t.metrics.observeAttempt location a }) s
    | .custom z => c.seeResponse (o.1, z) r a s
  seeFailure o r e s :=
    match o.2 with
    | .metrics location => modifyStore (fun t => { t with metrics := t.metrics.observeFailure location e }) s
    | .custom z => c.seeFailure (o.1, z) r e s

end Builtin

end Gateway
