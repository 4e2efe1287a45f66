import Gateway.Duration

/-!
# Token buckets

A bucket holds tokens up to a capacity and is refilled at a steady rate. A request takes
one token, or learns how long it takes until there is one. The amounts are of a type
`Amount`: floating point when the gateway runs, rational numbers where its laws are
stated exactly.
-/

namespace Gateway

/-- Arithmetic of tokens and seconds. -/
class Amount (α : Type) where
  ofNat : Nat → α
  /-- The seconds in a number of nanoseconds. -/
  seconds : Nat → α
  add : α → α → α
  sub : α → α → α
  mul : α → α → α
  div : α → α → α
  atMost : α → α → Bool
  /-- The nanoseconds in a number of seconds, if it is a duration. -/
  wait? : α → Option Nat
  /-- Nanoseconds as whole seconds, rounded up. -/
  wholeSeconds : Nat → Nat

namespace Amount

def smaller {α : Type} [Amount α] (x y : α) : α :=
  if atMost x y then x else y

/-- The seconds in floating point, rounded up and cut off at 64 bits. -/
def ceilSeconds (nanos : Nat) : Nat :=
  match Dyadic.ofFloat? (Duration.toSeconds nanos) with
  | some d => min d.ceil (Nat.pow 2 64 - 1)
  | none => 0

instance : Amount Float where
  ofNat := Float.ofNat
  seconds := Duration.toSeconds
  add := (· + ·)
  sub := (· - ·)
  mul := (· * ·)
  div := (· / ·)
  atMost x y := x ≤ y
  wait? := Duration.ofSeconds?
  wholeSeconds := ceilSeconds

end Amount

/-- Tokens per second and the capacity of buckets. -/
structure Limit (α : Type) where
  rate : α
  burst : α

structure Bucket (α : Type) where
  tokens : α
  updated : Nat

/-- What a request is told by its bucket. A wait that is no duration has no answer. -/
inductive Grant where
  | token
  | wait (nanos : Nat)
  | undefined
  deriving DecidableEq, Repr

namespace Bucket

variable {α : Type} [Amount α]

def full (l : Limit α) (now : Nat) : Bucket α :=
  ⟨l.burst, now⟩

/-- The tokens at a later time, without the limit of the capacity. -/
def grown (l : Limit α) (now : Nat) (b : Bucket α) : α :=
  Amount.add b.tokens (Amount.mul (Amount.seconds (now - b.updated)) l.rate)

def refill (l : Limit α) (now : Nat) (b : Bucket α) : Bucket α :=
  ⟨Amount.smaller (b.grown l now) l.burst, now⟩

def isFull (l : Limit α) (now : Nat) (b : Bucket α) : Bool :=
  Amount.atMost l.burst (b.grown l now)

def one : α := Amount.ofNat 1

/-- Takes a token if there is a whole one. -/
def acquire (l : Limit α) (now : Nat) (b : Bucket α) : Grant × Bucket α :=
  let b := b.refill l now
  if Amount.atMost one b.tokens then (.token, { b with tokens := Amount.sub b.tokens one })
  else
    match Amount.wait? (Amount.div (Amount.sub one b.tokens) l.rate) with
    | some nanos => (.wait nanos, b)
    | none => (.undefined, b)

end Bucket

end Gateway
