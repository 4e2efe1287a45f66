import Gateway.Location.Site

/-!
# The way of a request through a location

Each attempt tells the observers of the request, picks an endpoint, passes the
middlewares in order and, unless one of them answers, sends the request to the endpoint.
The middlewares that ran and the observers are told how it ended, and the failover
policy decides whether another attempt follows.

A `Flight` is a request at one of the points where it waits: for the answer of a
backend, or before its next attempt. `launch`, `land` and `resume` lead from one such
point to the next. The lists of handlers are taken once for each attempt, so that a
change to the chains takes effect from the next attempt on.
-/

namespace Gateway

/-- A request between its attempts. -/
structure Visit where
  request : Request
  /-- The attempts that it may take. -/
  budget : Nat
  /-- The ids of the endpoints that have been tried. -/
  tried : List String := []
  /-- The number of attempts made. -/
  made : Nat := 0

/-- An attempt in progress: the endpoint, when it began, and the handlers that are to be
told of its end. -/
structure Trial (μ ο : Type) where
  visit : Visit
  member : Member
  started : Nat
  ran : List (String × μ)
  watching : List (String × ο)

inductive Flight (μ ο : Type) where
  /-- Waits for the answer of the backend. -/
  | sending (t : Trial μ ο) (out : Outbound)
  /-- Rests for some nanoseconds, if any, before its next attempt. -/
  | resting (v : Visit) (nanos : Option Nat)
  | finished (r : Request) (result : Outcome)
  | crashed

variable {β μ ο σ : Type} [Balancer β]

/-- Asks the pool again, at most `n` times, while it gives endpoints that were tried. -/
def askAgain (tried : List String) : Nat → Member → Site β μ ο σ →
    Except Error Member × Site β μ ο σ
  | 0, m, s => (.ok m, s)
  | n + 1, m, s =>
      if tried.contains m.id then
        match s.pick with
        | (.ok m, s) => askAgain tried n m s
        | (.error e, s) => (.error e, s)
      else (.ok m, s)

/-- Picks an endpoint that was not tried if the pool has one. Other requests may move the
pool on in the meantime; after one round of asking, the first such endpoint is taken. -/
def selectEndpoint (tried : List String) (s : Site β μ ο σ) :
    Except Error Member × Site β μ ο σ :=
  match s.pick with
  | (.error e, s) => (.error e, s)
  | (.ok m, s) =>
      if tried.isEmpty then (.ok m, s)
      else
        let members := Balancer.members s.pool
        match askAgain tried members.length m s with
        | (.error e, s) => (.error e, s)
        | (.ok m, s) =>
            if tried.contains m.id then
              (.ok ((members.find? fun u => !tried.contains u.id).getD m), s)
            else (.ok m, s)

/-- Passes the middlewares up to the first that does not let the request pass: the ones
that ran, what the last of them said, and the request and site afterwards. -/
def runMiddlewares (h : Handlers β μ ο σ) : List (String × μ) → Request → Site β μ ο σ →
    List (String × μ) × Verdict × Request × Site β μ ο σ
  | [], r, s => ([], .pass, r, s)
  | m :: rest, r, s =>
      match h.onRequest m r s with
      | (.pass, r, s) =>
          let (ran, v, r, s) := runMiddlewares h rest r s
          (m :: ran, v, r, s)
      | (v, r, s) => ([m], v, r, s)

def tellMiddlewares (h : Handlers β μ ο σ) (a : Attempt) (ran : List (String × μ))
    (r : Request) (s : Site β μ ο σ) : Request × Site β μ ο σ :=
  ran.foldl (fun (r, s) m => h.onResponse m r a s) (r, s)

def tellObservers (h : Handlers β μ ο σ) (a : Attempt) (watching : List (String × ο))
    (r : Request) (s : Site β μ ο σ) : Site β μ ο σ :=
  watching.foldl (fun s o => h.seeResponse o r a s) s

/-- What follows an attempt: the end, or a rest before the next one. -/
def proceed (l : Location) (v : Visit) (a : Attempt) (s : Site β μ ο σ) :
    Flight μ ο × Site β μ ο σ :=
  if l.failover.shouldRetry v.request.method a v.made v.budget then
    let (rest, draws) := l.failover.draw v.made s.draws
    let s := { s with draws }
    match rest with
    | .none => (.resting v none, s)
    | .millis n => (.resting v (some (Duration.ofMillis n)), s)
    | .overflow => (.crashed, s)
  else (.finished v.request a.outcome, s)

/-- Ends an attempt. -/
def conclude (h : Handlers β μ ο σ) (l : Location) (t : Trial μ ο) (o : Outcome)
    (intercepted : Bool) (s : Site β μ ο σ) : Flight μ ο × Site β μ ο σ :=
  let a : Attempt := ⟨t.member.endpoint, o, s.now - t.started, intercepted⟩
  let (r, s) := tellMiddlewares h a t.ran (t.visit.request.record a.summary) s
  let s := tellObservers h a t.watching r s
  proceed l { t.visit with request := r } a s

/-- Makes an attempt at an endpoint, up to the sending of the request. -/
def attemptAt (h : Handlers β μ ο σ) (l : Location) (v : Visit) (m : Member)
    (watching : List (String × ο)) (s : Site β μ ο σ) : Flight μ ο × Site β μ ο σ :=
  let started := s.now
  match runMiddlewares h s.middlewares.entries v.request s with
  | (ran, verdict, r, s) =>
      let t : Trial μ ο := ⟨{ v with request := r }, m, started, ran, watching⟩
      match verdict with
      | .crash => (.crashed, s)
      | .respond response => conclude h l t (.ok response) true s
      | .reject rejection => conclude h l t (.error (.rejected rejection)) true s
      | .pass =>
          match Outbound.ofRequest r m.endpoint l.trustForwarded with
          | .error e => conclude h l t (.error e) false s
          | .ok out => (.sending t out, s.startAttempt m)

/-- Begins the next attempt. -/
def resume (h : Handlers β μ ο σ) (l : Location) (v : Visit) (s : Site β μ ο σ) :
    Flight μ ο × Site β μ ο σ :=
  let watching := s.observers.entries
  let s := watching.foldl (fun s o => h.seeRequest o v.request s) s
  match selectEndpoint v.tried s with
  | (.error e, s) =>
      (.finished v.request (.error e), watching.foldl (fun s o => h.seeFailure o v.request e s) s)
  | (.ok m, s) => attemptAt h l { v with tried := m.id :: v.tried, made := v.made + 1 } m watching s

/-- Begins the first attempt of a request. -/
def launch (h : Handlers β μ ο σ) (l : Location) (r : Request) (s : Site β μ ο σ) :
    Flight μ ο × Site β μ ο σ :=
  resume h l { request := r, budget := l.failover.budget (Balancer.members s.pool).length } s

/-- Takes in the answer of the backend. -/
def land (h : Handlers β μ ο σ) (l : Location) (t : Trial μ ο) (o : Outcome)
    (s : Site β μ ο σ) : Flight μ ο × Site β μ ο σ :=
  conclude h l t o false (s.finishAttempt t.member o.isSuccess)

end Gateway
