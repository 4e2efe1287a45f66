import Gateway.Attempt

/-!
# Circuit breaker

The breaker watches how attempts end. After enough failures in a row it opens and lets
no request through until some time has passed since the last failure. Then a trial
begins: enough successes close it, and the first failure opens it again.
-/

namespace Gateway

structure BreakerSettings where
  failureThreshold : Nat := 5
  successThreshold : Nat := 2
  /-- In milliseconds. -/
  timeout : Nat := 30000
  deriving DecidableEq, Repr

inductive Circuit where
  | closed
  | opened
  | halfOpen
  deriving DecidableEq, Repr

def Circuit.text : Circuit → String
  | .closed => "Closed"
  | .opened => "Open"
  | .halfOpen => "HalfOpen"

structure Breaker where
  circuit : Circuit := .closed
  failures : Nat := 0
  successes : Nat := 0
  lastFailure : Option Nat := none
  total : Nat := 0
  failed : Nat := 0
  deriving DecidableEq, Repr

namespace Breaker

def fresh : Breaker := {}

/-- Whether an open breaker may start a trial. -/
def hasRested (s : BreakerSettings) (now : Nat) (b : Breaker) : Bool :=
  match b.lastFailure with
  | some t => Duration.ofMillis s.timeout ≤ now - t
  | none => true

def toHalfOpen (b : Breaker) : Breaker :=
  { b with circuit := .halfOpen, failures := 0, successes := 0 }

def toClosed (b : Breaker) : Breaker :=
  { b with circuit := .closed, failures := 0, successes := 0, lastFailure := none }

def toOpen (now : Nat) (b : Breaker) : Breaker :=
  { b with circuit := .opened, successes := 0, lastFailure := some now }

/-- Asks for a request to be let through. -/
def permit (s : BreakerSettings) (now : Nat) (b : Breaker) : Bool × Breaker :=
  match b.circuit with
  | .closed => (true, b)
  | .halfOpen => (true, b)
  | .opened => if b.hasRested s now then (true, b.toHalfOpen) else (false, b)

def success (s : BreakerSettings) (b : Breaker) : Breaker :=
  let b := { b with total := b.total + 1 }
  match b.circuit with
  | .closed => { b with failures := 0 }
  | .halfOpen =>
      let b := { b with successes := b.successes + 1 }
      if s.successThreshold ≤ b.successes then b.toClosed else b
  | .opened => b

def failure (s : BreakerSettings) (now : Nat) (b : Breaker) : Breaker :=
  let b := { b with total := b.total + 1, failed := b.failed + 1 }
  match b.circuit with
  | .closed =>
      let b := { b with failures := b.failures + 1 }
      if s.failureThreshold ≤ b.failures then b.toOpen now else b
  | .halfOpen => b.toOpen now
  | .opened => { b with lastFailure := some now }

/-- Attempts count as failed when the exchange broke or the server failed. -/
def isFailure (a : Attempt) : Bool :=
  match a.outcome with
  | .ok r => r.status.isServerError
  | .error e => e.isTransport

/-- Takes note of an attempt. Intercepted ones say nothing about backends. -/
def observe (s : BreakerSettings) (now : Nat) (a : Attempt) (b : Breaker) : Breaker :=
  if a.intercepted then b
  else if isFailure a then b.failure s now
  else b.success s

/-- What is told a client that is not let through. -/
def rejection : Rejection :=
  .ofStatus .serviceUnavailable

end Breaker

end Gateway
