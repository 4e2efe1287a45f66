import Gateway.Bench.Schedule
import Gateway.Config.Build
import Gateway.Front
import Gateway.Report

/-!
# Service on a bench

A gateway built from a configuration serves requests one after another, over a network
that is part of the input.
-/

namespace Gateway.Bench

abbrev Hall := Installation Empty Empty Ground

/-- What the gateway keeps between requests. -/
structure Service where
  hall : Hall
  draws : Draws

/-- A location that gives every request back, or always fails. -/
structure Echo where
  failure : Option Rejection := none

namespace Echo

/-- The status of what is given back, and the field with the number of the request. -/
def status : Status := ⟨418, by decide, by decide⟩
def idField : FieldName := ⟨"x-request-id"⟩

def outcome (e : Echo) (r : Request) : Outcome :=
  match e.failure with
  | some f => .error (.rejected f)
  | none =>
      .ok (.ofBody status (Headers.empty.append idField (Utf8.encode (toString r.id))) r.body)

def exchange {ω : Type} (e : Echo) (r : Request) (now : Nat) (w : ω) : Run (Outcome × Nat × ω) :=
  .ended (e.outcome r, now, w)

end Echo

/-- A request that comes some time after the one before, with a body that is there or
arrives in steps. -/
structure Arrival where
  wait : Nat := 0
  request : Request
  steps : Option (List BodyStep) := none

def Arrival.delivery (a : Arrival) (now : Nat) : Delivery :=
  match a.steps with
  | some steps => .ofSteps now steps
  | none => .whole a.request.body

/-- A response, the time until it was given, and until its body had been read. -/
structure Served where
  response : Response
  head : Nat
  total : Nat

namespace Service

/-- The line as a location waits on it. -/
def lineOf (b : Branch Rotation Empty Empty) : Line → Line
  | .network _ backends => .network (b.options.backendTimeout.map Duration.ofMillis) backends
  | l => l

/-- Takes a request through a location. -/
def exchange (index : Nat) (r : Request) (now : Nat) (s : Service) :
    Run (Outcome × Nat × Service) :=
  match s.hall.branches[index]? with
  | none => .stuck
  | some b =>
      let w := onGround (fun g => { g with line := lineOf b g.line })
        (b.site now s.draws s.hall.store)
      let t : Task (Middleware Empty) (Observer Empty) :=
        { began := now, wake := some now, phase := .starting r }
      (runAll Builtin.Custom.none.handlers b.location stepLimit [t] w).bind fun (ts, w) =>
        match ts.head?.map Task.phase with
        | some (.ended _ o since) =>
            let branches := s.hall.branches.set index (b.ofSite w)
            .ended (o, since, ⟨{ s.hall with branches, store := w.shared }, w.draws⟩)
        | _ => .stuck

/-- Serves requests, the first of which comes after its wait and has number `id`. -/
def serve {κ ω : Type} (p : Front κ) (exchange : κ → Request → Nat → ω → Run (Outcome × Nat × ω)) :
    (id now : Nat) → List Arrival → ω → Run (List Served × ω)
  | _, _, [], w => .ended ([], w)
  | id, now, a :: rest, w =>
      let began := now + a.wait
      (p.handle exchange { a.request with id, body := [] } began (a.delivery began) w).bind
        fun (time, response, w) =>
          let finish := max time response.payload.ready
          if horizon < finish then .stuck
          else
            (serve p exchange (id + 1) finish rest w).bind fun (served, w) =>
              .ended (⟨response, time - began, finish - began⟩ :: served, w)

end Service

def Served.report (s : Served) : Json :=
  match Report.response s.response with
  | .obj fields =>
      .ofFields (("head_ms", .ofNat (s.head / 1000000)) :: ("ms", .ofNat (s.total / 1000000)) :: fields)
  | j => j

end Gateway.Bench
