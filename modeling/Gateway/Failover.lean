import Gateway.Attempt

/-!
# Failover

How many attempts a request may take, which of them are worth another one, and how long
to rest in between. Times are 64-bit numbers of milliseconds: growth stops at the largest
one, and a jitter that leads beyond it is an overflow.
-/

namespace Gateway

structure FailoverPolicy where
  maxAttempts : Option Nat := none
  retryableStatuses : List Nat := []
  backoffBase : Nat := 0
  backoffMax : Nat := 1000
  deriving DecidableEq, Repr

/-- The rest before the next attempt. -/
inductive Rest where
  | none
  | millis (n : Nat)
  | overflow
  deriving DecidableEq, Repr

namespace FailoverPolicy

def maxCount : Nat := Nat.pow 2 32 - 1

/-- The attempts for a request: as many as set, or one for each endpoint, but one at
least. -/
def budget (p : FailoverPolicy) (endpoints : Nat) : Nat :=
  max 1 (p.maxAttempts.getD (min endpoints maxCount))

def isRetryableStatus (p : FailoverPolicy) (s : Status) : Bool :=
  p.retryableStatuses.contains s.code

def isRetryable (p : FailoverPolicy) (m : Method) : Outcome → Bool
  | .ok r => p.isRetryableStatus r.status
  | .error e => e.isRetryable m

/-- Whether attempt number `no` is to be followed by another one. -/
def shouldRetry (p : FailoverPolicy) (m : Method) (a : Attempt) (no budget : Nat) : Bool :=
  no < budget && !a.intercepted && p.isRetryable m a.outcome

def maxMillis : Nat := Nat.pow 2 64 - 1

/-- Two to the power of `n`, cut off at the largest 64-bit number. -/
def powerOfTwo (n : Nat) : Nat :=
  if n < 64 then Nat.pow 2 n else maxMillis

/-- The rest after attempt `no` without its jitter. -/
def capped (p : FailoverPolicy) (no : Nat) : Nat :=
  min (min (p.backoffBase * powerOfTwo (no - 1)) maxMillis) (max p.backoffMax p.backoffBase)

/-- At most a quarter of the rest, as `draw` has it. -/
def jitter (draw : Float) (rest : Nat) : Nat :=
  (Float.ofNat rest * draw * 0.25).toUInt64.toNat

/-- The rest with a jitter already drawn. -/
def restWith (p : FailoverPolicy) (jitter no : Nat) : Rest :=
  if maxMillis < p.capped no + jitter then .overflow else .millis (p.capped no + jitter)

/-- Whether there is a rest after attempt `no`, so that a number has to be drawn. -/
def rests (p : FailoverPolicy) (no : Nat) : Bool :=
  p.backoffBase ≠ 0 && no ≠ 0

/-- The rest after attempt `no`. It doubles from the base up to the limit. -/
def backoff (p : FailoverPolicy) (draw : Float) (no : Nat) : Rest :=
  if p.rests no then p.restWith (jitter draw (p.capped no)) no else .none

end FailoverPolicy

/-- Numbers drawn at random, in order; zero follows the last one. -/
structure Draws where
  numbers : List Float := []

namespace Draws

def take (d : Draws) : Float × Draws :=
  (d.numbers.headD 0.0, ⟨d.numbers.tail⟩)

end Draws

/-- Draws a number if the rest after attempt `no` needs one. -/
def FailoverPolicy.draw (p : FailoverPolicy) (no : Nat) (d : Draws) : Rest × Draws :=
  if p.rests no then
    let (x, d) := d.take
    (p.backoff x no, d)
  else (.none, d)

end Gateway
