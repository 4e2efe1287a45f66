import Gateway.Bench.Backend
import Gateway.Location.Builtin

/-!
# The ground of a bench

What all requests on a bench have in common: the line to the backends, and the record of
what was sent and what happened, the latest first.
-/

namespace Gateway.Bench

structure Ground where
  line : Line
  sent : List Sent := []
  events : List String := []
  /-- How often each middleware with scripts was asked, by its place. -/
  asked : List Nat := []
  /-- The places of breakers by the names under which they were put in, the latest first. -/
  breakers : List (String × Nat) := []

namespace Ground

def send (s : Sent) (g : Ground) : Ground :=
  { g with sent := s :: g.sent }

def log (event : String) (g : Ground) : Ground :=
  { g with events := event :: g.events }

/-- Forgets what was recorded. -/
def clear (g : Ground) : Ground :=
  { g with sent := [], events := [] }

end Ground

/-- The site of a location on a bench. -/
abbrev World (β ξ ζ : Type) := Workplace β ξ ζ Ground

variable {β ξ ζ : Type}

def onGround (f : Ground → Ground) (w : World β ξ ζ) : World β ξ ζ :=
  Builtin.modifyStore (fun t => { t with extra := f t.extra }) w

def record (event : String) (w : World β ξ ζ) : World β ξ ζ :=
  onGround (·.log event) w

end Gateway.Bench
