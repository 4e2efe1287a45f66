import Gateway.Bench.Ground
import Gateway.Location.Flight
import Gateway.Run

/-!
# Time on a bench

Requests share a clock that stands still while they are at work. When all of them wait,
the clock goes on to the earliest time at which one of them has something to do. Of those
that do at the same time, the first in the list goes first, until it waits again.
-/

namespace Gateway.Bench

/-- What a request does next. -/
inductive Phase (μ ο : Type) where
  | starting (r : Request)
  /-- Puts the request on a connection, which ends as is said. -/
  | connecting (t : Trial μ ο) (s : Sent) (ended : Option (Nat × Outcome))
  | landing (t : Trial μ ο) (o : Outcome)
  | resuming (v : Visit)
  /-- Waits for ever. -/
  | lost
  /-- Has had an outcome since some time, whose body is still read. -/
  | reading (r : Request) (o : Outcome) (since : Nat)
  | ended (r : Request) (o : Outcome) (since : Nat)
  | broken

structure Task (μ ο : Type) where
  began : Nat
  /-- When its body had been read. -/
  readAt : Nat := 0
  /-- When it goes on, if ever. -/
  wake : Option Nat
  phase : Phase μ ο

variable {β ξ ζ : Type} [Balancer β]

namespace Task

variable {μ ο : Type}

def isOver (t : Task μ ο) : Bool :=
  match t.phase with
  | .ended .. => true
  | .broken => true
  | _ => false

def isReady (now : Nat) (t : Task μ ο) : Bool :=
  !t.isOver && t.wake.any (· ≤ now)

def toPhase (t : Task μ ο) (wake : Option Nat) (p : Phase μ ο) : Task μ ο :=
  { t with wake, phase := p }

end Task

/-- What becomes of a request that is sent: what to do next, and when. -/
def dispatch (t : Trial (Middleware ξ) (Observer ζ)) (out : Outbound) (w : World β ξ ζ) :
    Option Nat × Phase (Middleware ξ) (Observer ζ) × World β ξ ζ :=
  match w.shared.extra.line with
  | .canned replies =>
      let key := out.uri.scheme.getD "" ++ "://" ++ out.uri.authority.getD ""
      let (c, replies) := takeAt key replies
      let w := onGround (fun g => ({ g with line := .canned replies }).send (.direct out)) w
      match c with
      | some c => (some (w.now + c.delay), .landing t c.outcome, w)
      | none => (some w.now, .landing t (.error (.timeout Duration.second)), w)
  | .network timeout backends =>
      let (b, backends) := takeAt out.uri.origin backends
      let w := onGround (fun g => { g with line := .network timeout backends }) w
      let course := match b with
        | some b => b.course out.method w.now
        | none => refusedAt w.now
      let course := course.within timeout w.now
      match course.connected, course.ended with
      | some time, ended => (some time, .connecting t (.wired out.uri.origin out.wire) ended, w)
      | none, some (time, o) => (some time, .landing t o, w)
      | none, none => (none, .lost, w)

/-- When the body of an outcome has been read. -/
def readBy (now : Nat) : Outcome → Nat
  | .ok r => max now r.payload.ready
  | .error _ => now

/-- What to do next for a request at a point where it waits. -/
def follow (f : Flight (Middleware ξ) (Observer ζ) × World β ξ ζ) :
    Option Nat × Phase (Middleware ξ) (Observer ζ) × World β ξ ζ :=
  match f with
  | (.sending t out, w) => dispatch t out w
  | (.resting v none, w) => (some w.now, .resuming v, w)
  | (.resting v (some nanos), w) => (some (w.now + nanos), .resuming v, w)
  | (.finished r o, w) => (some (readBy w.now o), .reading r o w.now, w)
  | (.crashed, w) => (some w.now, .broken, w)

/-- One step of a request. -/
def step (h : Handlers β (Middleware ξ) (Observer ζ) (Store Ground)) (l : Location)
    (t : Task (Middleware ξ) (Observer ζ)) (w : World β ξ ζ) :
    Task (Middleware ξ) (Observer ζ) × World β ξ ζ :=
  let go (f : Flight (Middleware ξ) (Observer ζ) × World β ξ ζ) :=
    let (wake, p, w) := follow f
    (t.toPhase wake p, w)
  match t.phase with
  | .starting r => go (launch h l r w)
  | .connecting trial s ended =>
      let w := onGround (·.send s) w
      match ended with
      | some (time, o) => (t.toPhase (some time) (.landing trial o), w)
      | none => (t.toPhase none .lost, w)
  | .landing trial o => go (land h l trial o w)
  | .resuming v => go (resume h l v w)
  | .reading r o since => ({ t with readAt := w.now, phase := .ended r o since }, w)
  | .lost | .ended .. | .broken => (t, w)

/-- A request goes on until it waits. -/
def goOn (h : Handlers β (Middleware ξ) (Observer ζ) (Store Ground)) (l : Location) :
    Nat → Task (Middleware ξ) (Observer ζ) → World β ξ ζ → Task (Middleware ξ) (Observer ζ) × World β ξ ζ
  | 0, t, w => (t, w)
  | fuel + 1, t, w =>
      if t.isReady w.now then
        let (t, w) := step h l t w
        goOn h l fuel t w
      else (t, w)

def earliest (times : List Nat) : Option Nat :=
  times.foldl (fun acc t => some (match acc with | some a => min a t | none => t)) none

/-- Waits that lead beyond this time are for ever. -/
def horizon : Nat := Duration.ofMillis (Nat.pow 10 10)

/-- Runs requests until all of them have ended. -/
def runAll (h : Handlers β (Middleware ξ) (Observer ζ) (Store Ground)) (l : Location) :
    Nat → List (Task (Middleware ξ) (Observer ζ)) → World β ξ ζ →
      Run (List (Task (Middleware ξ) (Observer ζ)) × World β ξ ζ)
  | 0, _, _ => .stuck
  | fuel + 1, ts, w =>
      if ts.any fun t => t.phase matches .broken then .broken
      else
        match ts.zipIdx.find? fun (t, _) => t.isReady w.now with
        | some (t, i) =>
            let (t, w) := goOn h l (fuel + 1) t w
            runAll h l fuel (ts.set i t) w
        | none =>
            if ts.all Task.isOver then .ended (ts, w)
            else
              match earliest ((ts.filter fun t => !t.isOver).filterMap Task.wake) with
              | none => .stuck
              | some time =>
                  if horizon < time then .stuck else runAll h l fuel ts { w with now := time }

/-- More steps than a bench ever takes. -/
def stepLimit : Nat := Nat.pow 2 40

end Gateway.Bench
