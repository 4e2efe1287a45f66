import Gateway.Body.Inbound
import Gateway.Error.Basic

/-!
# Reading bodies

A reader collects a body within limits of size and time. What it leaves is drained
before the client is answered, for a limited time.
-/

namespace Gateway

/-- Limits of a reader; the time is in nanoseconds. -/
structure BodyLimits where
  maxBytes : Option Nat := none
  timeout : Option Nat := none
  deriving DecidableEq, Repr

inductive BodyReadError where
  | timeout
  | tooLarge (limit : Nat)
  | read (f : BodyFault)
  deriving DecidableEq, Repr

namespace BodyReadError

def ofFault (f : BodyFault) : BodyReadError :=
  if f.isTimeout then .timeout else .read f

def message : BodyReadError → String
  | .timeout => "Request body read timed out"
  | .tooLarge limit => "Request body exceeds the maximum of " ++ toString limit ++ " bytes"
  | .read f => "Failed to read request body: " ++ f.message

def status : BodyReadError → Status
  | .timeout => .requestTimeout
  | .tooLarge _ => .payloadTooLarge
  | .read _ => .badRequest

def rejection (e : BodyReadError) : Rejection :=
  .ofStatus e.status

end BodyReadError

/-- What reading came to: at what time it ended, with what result, and what is left. -/
structure Reading (ε : Type) where
  time : Nat
  result : ε
  rest : Delivery

namespace BodyLimits

def exceeds (l : BodyLimits) (n : Nat) : Option Nat :=
  l.maxBytes.filter (· < n)

/-- Takes pieces until the body ends, fails, gets too large, or `deadline` passes. It
never ends on a stalled body without a deadline. -/
def collect (l : BodyLimits) (deadline : Option Nat) (now : Nat) (acc : Bytes) (d : Delivery) :
    Option (Reading (Except BodyReadError Bytes)) :=
  match h : d.next? now with
  | none => deadline.map fun t => ⟨t, .error .timeout, d.waited now⟩
  | some (t, a, d') =>
      if deadline.any (· < t) then
        deadline.map fun t => ⟨t, .error .timeout, d.waited now⟩
      else
        match a with
        | .finished => some ⟨t, .ok acc, d'⟩
        | .fault f => some ⟨t, .error (.ofFault f), d'⟩
        | .chunk b =>
            match l.exceeds (acc.length + b.length) with
            | some limit => some ⟨t, .error (.tooLarge limit), d'⟩
            | none =>
                have : d'.size < d.size := Delivery.size_next? h (by simp)
                collect l deadline t (acc ++ b) d'
termination_by d.size

/-- Reads a body from `now` on. One that is declared too long is not begun. -/
def read (l : BodyLimits) (now : Nat) (d : Delivery) :
    Option (Reading (Except BodyReadError Bytes)) :=
  match d.declared?.bind l.exceeds with
  | some limit => some ⟨now, .error (.tooLarge limit), d⟩
  | none => l.collect (l.timeout.map (now + ·)) now [] d

end BodyLimits

namespace Delivery

/-- Reads on up to the end or the first fault: the octets and that fault. -/
def readRest (now : Nat) (acc : Bytes) (d : Delivery) : Option (Reading (Bytes × Option BodyFault)) :=
  match h : d.next? now with
  | none => none
  | some (t, a, d') =>
      match a with
      | .finished => some ⟨t, (acc, none), d'⟩
      | .fault f => some ⟨t, (acc, some f), d'⟩
      | .chunk b =>
          have : d'.size < d.size := size_next? h (by simp)
          readRest t (acc ++ b) d'
termination_by d.size

/-- The time when the body has been read up to its end or first fault, but not later than
`deadline`. -/
def drain (deadline now : Nat) (d : Delivery) : Nat :=
  match h : d.next? now with
  | none => deadline
  | some (t, a, d') =>
      if deadline < t then deadline
      else
        match a with
        | .chunk _ =>
            have : d'.size < d.size := size_next? h (by simp)
            drain deadline t d'
        | .finished => t
        | .fault _ => t
termination_by d.size

end Delivery

end Gateway
