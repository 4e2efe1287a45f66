import Gateway.Bench.Hooks
import Gateway.Bench.Schedule

/-!
# Trials of a location

A location on a bench is taken through steps: requests, one at a time or several at once,
and actions in between. Each step is reported with what was sent and what happened.
-/

namespace Gateway.Bench

/-- How a request ended, and how long it took. -/
structure Finish where
  outcome : Outcome
  attempts : List AttemptSummary
  nanos : Nat

def Task.finish? {μ ο : Type} (t : Task μ ο) : Option Finish :=
  match t.phase with
  | .ended r o _ => some ⟨o, r.attempts, t.readAt - t.began⟩
  | _ => none

/-- A request that begins after some time. -/
def taskOf {μ ο : Type} (now : Nat) (r : Request × Nat) : Task μ ο :=
  { began := now + r.2, wake := some (now + r.2), phase := .starting r.1 }

/-- Runs requests that begin after some time each. -/
def runRequests (l : Location) (rs : List (Request × Nat)) (w : Place) : Run (List Finish × Place) :=
  (runAll scripted.handlers l stepLimit (rs.map (taskOf w.now)) w).bind fun (ts, w) =>
    .ended (ts.filterMap Task.finish?, w)

inductive Step where
  | request (r : Request)
  | concurrent (rs : List (Request × Nat))
  | act (a : SiteAction)

structure StepReport where
  result : Json
  events : List String
  sent : List Sent
  counters : List (String × Tally)

def Finish.report (f : Finish) : Json :=
  .ofFields [
    ("result", Report.outcome f.outcome),
    ("attempts", .arr (f.attempts.map Report.attempt)),
    ("ms", .ofNat (f.nanos / 1000000))]

def Sent.report : Sent → Json
  | .direct o =>
      .ofFields [("method", .str o.method.name), ("uri", .str o.uri.text),
        ("headers", Report.headers o.headers), ("body", Report.octets o.body)]
  | .wired origin w =>
      .ofFields [("endpoint", .str origin), ("line", .str w.line),
        ("headers", Report.headers w.headers), ("body", Report.octets w.body)]

def Step.run (l : Location) (s : Step) (w : Place) : Run (Json × Place) :=
  match s with
  | .request r =>
      (runRequests l [(r, 0)] w).bind fun (fs, w) =>
        .ended (.ofOption Finish.report fs.head?, w)
  | .concurrent rs =>
      (runRequests l rs w).bind fun (fs, w) => .ended (.arr (fs.map Finish.report), w)
  | .act a => .ended (a.perform w)

/-- Takes one step, and reports it. -/
def Step.report (l : Location) (s : Step) (w : Place) : Run (StepReport × Place) :=
  (s.run l (onGround Ground.clear w)).bind fun (result, w) =>
    .ended (⟨result, w.shared.extra.events.reverse, w.shared.extra.sent.reverse, w.counters⟩, w)

def runSteps (l : Location) : List Step → Place → Run (List StepReport × Place)
  | [], w => .ended ([], w)
  | s :: rest, w =>
      (s.report l w).bind fun (report, w) =>
        (runSteps l rest w).bind fun (reports, w) => .ended (report :: reports, w)

/-- A location before its first step, with the script of its pool if it has one. -/
def place (endpoints : List String) (offers : Option (List Offer)) (draws : Draws) (line : Line) :
    Except Error Place := do
  let (r, ledger) ← LocationSettings.fillPool endpoints .empty .empty
  let pool : Pool := match offers with
    | none => .rotation r
    | some offers => .scripted r.members offers
  pure { now := 0, pool, ledger, middlewares := .empty, observers := .empty, draws,
         shared := { extra := { line } } }

end Gateway.Bench
