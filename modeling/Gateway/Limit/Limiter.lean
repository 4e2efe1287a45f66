import Gateway.Limit.Bucket

/-!
# Rate limiting by client

Every client has a bucket of its own, under a key. A bucket that has filled up again is
no different from a new one, so from time to time full buckets are dropped.
-/

namespace Gateway

/-- What a client is told: to go on, or to come back after some seconds. -/
inductive Admission where
  | pass
  | retry (seconds : Nat)
  | undefined
  deriving DecidableEq, Repr

structure Limiter (α : Type) where
  limit : Limit α
  buckets : List (String × Bucket α) := []
  requests : Nat := 0

namespace Limiter

variable {α : Type} [Amount α]

def ofLimit (l : Limit α) : Limiter α := { limit := l }

/-- Full buckets are dropped whenever this many requests have been seen. -/
def sweepEvery : Nat := 1024

def bucket? (key : String) (l : Limiter α) : Option (Bucket α) :=
  (l.buckets.find? (·.1 = key)).map (·.2)

/-- Puts a bucket in the place of the client's bucket, or adds it. -/
def store (key : String) (b : Bucket α) :
    List (String × Bucket α) → List (String × Bucket α)
  | [] => [(key, b)]
  | (k, old) :: rest => if k = key then (key, b) :: rest else (k, old) :: store key b rest

def sweep (now : Nat) (l : Limiter α) : Limiter α :=
  { l with buckets := l.buckets.filter fun e => !e.2.isFull l.limit now }

def tracked (l : Limiter α) : Nat := l.buckets.length

def verdict (α : Type) [Amount α] : Grant → Admission
  | .token => .pass
  | .wait nanos => .retry (max 1 (Amount.wholeSeconds α nanos))
  | .undefined => .undefined

/-- One request of a client. A request without an answer is not counted. -/
def request (now : Nat) (key : String) (l : Limiter α) : Admission × Limiter α :=
  let b := (l.bucket? key).getD (.full l.limit now)
  let (grant, b) := b.acquire l.limit now
  let stored := { l with buckets := store key b l.buckets }
  match grant with
  | .undefined => (.undefined, stored)
  | g =>
      let counted := { stored with requests := l.requests + 1 }
      let swept := if l.requests % sweepEvery = sweepEvery - 1 then counted.sweep now else counted
      (verdict α g, swept)

end Limiter

end Gateway
