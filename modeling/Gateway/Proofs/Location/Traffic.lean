import Gateway.Proofs.Location.Journey
import Mathlib

/-!
# Traffic

Many requests are on their way through a location at once. Each goes on when its backend has
answered or its rest is over, in whatever order that happens, and in between the site may
change from outside. Whatever is done for the requests is written down as a list of deeds.
What the site keeps of it is an account of these deeds.
-/

namespace Gateway

variable {β μ ο σ : Type}

/-! ## Rounds -/

/-- What a round comes to, before anything is sent or anyone is told how it ended. -/
inductive Round (μ ο : Type) where
  | unplaced (e : Error)
  /-- A middleware broke down. -/
  | brokeDown
  /-- The outcome is there without a backend. -/
  | settled (t : Trial μ ο) (o : Outcome) (intercepted : Bool)
  | sent (t : Trial μ ο) (out : Outbound)

/-- What comes of an attempt by what the last middleware said. -/
def Round.ofVerdict (l : Location) (t : Trial μ ο) : Verdict → Round μ ο
  | .crash => .brokeDown
  | .respond response => .settled t (.ok response) true
  | .reject rejection => .settled t (.error (.rejected rejection)) true
  | .pass =>
      match Outbound.ofRequest t.visit.request t.member.endpoint l.trustForwarded with
      | .error e => .settled t (.error e) false
      | .ok out => .sent t out

/-- The attempt as it is recorded at its end. -/
def Trial.attempt (t : Trial μ ο) (o : Outcome) (intercepted : Bool) (now : Nat) : Attempt :=
  ⟨t.member.endpoint, o, now - t.started, intercepted⟩

/-- Something that is done for a request. -/
inductive Deed (μ ο : Type) where
  /-- The observers are told of the request. -/
  | opened (watching : List (String × ο))
  | sent (t : Trial μ ο)
  /-- An attempt is over, which was sent or not, and everyone has been told. -/
  | ended (t : Trial μ ο) (a : Attempt) (sent : Bool)
  /-- There was no endpoint, and the observers have been told. -/
  | unplaced (e : Error) (watching : List (String × ο))
  | brokeDown (watching : List (String × ο))

namespace Deed

/-- The attempt that is over by this. -/
def attempt? : Deed μ ο → Option Attempt
  | .ended _ a _ => some a
  | _ => none

/-- The attempt that a backend has ended. -/
def landing? : Deed μ ο → Option Attempt
  | .ended _ a true => some a
  | _ => none

/-- The attempt whose request could not be made for the endpoint. -/
def unsendable? : Deed μ ο → Option Attempt
  | .ended _ a false => if a.intercepted then none else some a
  | _ => none

def failure? : Deed μ ο → Option Error
  | .unplaced e _ => some e
  | _ => none

end Deed

namespace Flight

/-- The attempt that waits for its backend. -/
def trial? : Flight μ ο → Option (Trial μ ο)
  | .sending t _ => some t
  | _ => none

/-- The request as it is by now, unless it is lost. -/
def request? : Flight μ ο → Option Request
  | .sending t _ => some t.visit.request
  | .resting v _ => some v.request
  | .finished r _ => some r
  | .crashed => none

/-- Waits for the answer of this endpoint. -/
def awaits (m : Member) (f : Flight μ ο) : Bool :=
  f.trial?.any (·.member = m)

end Flight

section

variable [Balancer β]

/-- What comes first in a round: the observers are told of the request, and the pool is asked
for an endpoint. -/
def Visit.opening (h : Handlers β μ ο σ) (v : Visit) (s : Site β μ ο σ) :
    Except Error Member × Site β μ ο σ :=
  selectEndpoint v.tried (announce h v.request s)

/-- A round up to the point where the request is to be sent or its outcome is there. -/
def Visit.round (h : Handlers β μ ο σ) (l : Location) (v : Visit) (s : Site β μ ο σ) :
    Round μ ο × Site β μ ο σ :=
  match v.opening h s with
  | (.error e, s') => (.unplaced e, s')
  | (.ok m, s') =>
      match runMiddlewares h s'.middlewares.entries v.request s' with
      | (ran, verdict, r, s'') =>
          (.ofVerdict l ⟨{ v.toNext m with request := r }, m, s'.now, ran, s.observers.entries⟩
            verdict, s'')

/-- Where a round leads, and who is told. -/
def Round.close (h : Handlers β μ ο σ) (l : Location) (r : Request)
    (watching : List (String × ο)) (s : Site β μ ο σ) :
    Round μ ο → Flight μ ο × Site β μ ο σ
  | .unplaced e => (.finished r (.error e), watching.foldl (fun s o => h.seeFailure o r e s) s)
  | .brokeDown => (.crashed, s)
  | .settled t o intercepted => conclude h l t o intercepted s
  | .sent t out => (.sending t out, s.startAttempt t.member)

theorem resume_eq (h : Handlers β μ ο σ) (l : Location) (v : Visit) (s : Site β μ ο σ) :
    resume h l v s =
      (v.round h l s).1.close h l v.request s.observers.entries (v.round h l s).2 := by
  unfold Visit.round
  rcases hopening : v.opening h s with ⟨e | m, s'⟩
  · unfold Visit.opening announce at hopening
    simp only [resume, hopening]
    rfl
  · rw [resume_of_selected hopening]
    have hrequest : (v.toNext m).request = v.request := rfl
    unfold attemptAt
    simp only [hrequest]
    rcases runMiddlewares h s'.middlewares.entries v.request s' with ⟨ran, verdict, r, s''⟩
    cases verdict with
    | crash => rfl
    | respond response => rfl
    | reject rejection => rfl
    | pass =>
        simp only [Round.ofVerdict]
        cases Outbound.ofRequest r m.endpoint l.trustForwarded with
        | error e => rfl
        | ok out => rfl

/-- What a round does at the site whose clock shows `now`, when these observers watch it. -/
def Round.deeds (watching : List (String × ο)) (now : Nat) : Round μ ο → List (Deed μ ο)
  | .unplaced e => [.opened watching, .unplaced e watching]
  | .brokeDown => [.opened watching, .brokeDown watching]
  | .settled t o intercepted =>
      [.opened watching, .ended t (t.attempt o intercepted now) false]
  | .sent t _ => [.opened watching, .sent t]

def Visit.deeds (h : Handlers β μ ο σ) (l : Location) (v : Visit) (s : Site β μ ο σ) :
    List (Deed μ ο) :=
  (v.round h l s).1.deeds s.observers.entries (v.round h l s).2.now

end

/-! ## Traffic -/

/-- What happens to the traffic of a location. Requests are known by their numbers, in the
order in which they came. -/
inductive Traffic.Event (β μ ο σ : Type) where
  | arrive (r : Request)
  /-- A backend answers a request that waits for it. -/
  | answer (i : Nat) (o : Outcome)
  /-- The rest of a request is over. -/
  | wake (i : Nat)
  /-- Time passes, or the site is changed from outside. -/
  | change (f : Site β μ ο σ → Site β μ ο σ)

/-- The requests that came, where they are, and what was done for each of them. -/
structure Traffic (β μ ο σ : Type) where
  site : Site β μ ο σ
  requests : List Request := []
  flights : List (Flight μ ο) := []
  deeds : List (Nat × Deed μ ο) := []

namespace Traffic

/-- A location that no request has come to. -/
def start (s : Site β μ ο σ) : Traffic β μ ο σ := { site := s }

/-- The deeds for all requests, in order. -/
def done (T : Traffic β μ ο σ) : List (Deed μ ο) := T.deeds.map (·.2)

/-- The attempts that are over. -/
def attempts (T : Traffic β μ ο σ) : List Attempt := T.done.filterMap Deed.attempt?

/-- Those that were sent. -/
def landings (T : Traffic β μ ο σ) : List Attempt := T.done.filterMap Deed.landing?

/-- Those that no middleware answered, but whose request could not be made. -/
def unsendable (T : Traffic β μ ο σ) : List Attempt := T.done.filterMap Deed.unsendable?

/-- The selections that failed. -/
def failures (T : Traffic β μ ο σ) : List Error := T.done.filterMap Deed.failure?

/-- The attempts of one request. -/
def attemptsOf (i : Nat) (T : Traffic β μ ο σ) : List Attempt :=
  T.deeds.filterMap fun d => if d.1 = i then d.2.attempt? else none

section

variable [Balancer β]

/-- A request comes, with its first attempt still to be begun. -/
def enter (l : Location) (r : Request) (T : Traffic β μ ο σ) : Traffic β μ ο σ :=
  { T with requests := T.requests ++ [r]
           flights := T.flights ++ [.resting (Visit.first l r T.site) none] }

/-- A request begins its next attempt. -/
def resumed (h : Handlers β μ ο σ) (l : Location) (i : Nat) (v : Visit) (T : Traffic β μ ο σ) :
    Traffic β μ ο σ :=
  { T with site := (resume h l v T.site).2
           flights := T.flights.set i (resume h l v T.site).1
           deeds := T.deeds ++ (v.deeds h l T.site).map (i, ·) }

/-- A request gets its answer. -/
def landed (h : Handlers β μ ο σ) (l : Location) (i : Nat) (t : Trial μ ο) (o : Outcome)
    (T : Traffic β μ ο σ) : Traffic β μ ο σ :=
  { T with site := (land h l t o T.site).2
           flights := T.flights.set i (land h l t o T.site).1
           deeds := T.deeds ++ [(i, .ended t (t.attempt o false T.site.now) true)] }

/-- Ends the rest of a request, if it rests. -/
def wake (h : Handlers β μ ο σ) (l : Location) (i : Nat) (T : Traffic β μ ο σ) :
    Traffic β μ ο σ :=
  match T.flights[i]? with
  | some (.resting v _) => T.resumed h l i v
  | _ => T

/-- Brings a request its answer, if it waits for one. -/
def answer (h : Handlers β μ ο σ) (l : Location) (i : Nat) (o : Outcome)
    (T : Traffic β μ ο σ) : Traffic β μ ο σ :=
  match T.flights[i]? with
  | some (.sending t _) => T.landed h l i t o
  | _ => T

/-- What does not apply to a request leaves everything as it is. -/
def step (h : Handlers β μ ο σ) (l : Location) (T : Traffic β μ ο σ) :
    Event β μ ο σ → Traffic β μ ο σ
  | .arrive r => (T.enter l r).wake h l T.flights.length
  | .answer i o => T.answer h l i o
  | .wake i => T.wake h l i
  | .change f => { T with site := f T.site }

def run (h : Handlers β μ ο σ) (l : Location) (T : Traffic β μ ο σ)
    (events : List (Event β μ ο σ)) : Traffic β μ ο σ :=
  events.foldl (step h l) T

/-- What holds at first, and is kept by whatever happens to the traffic, always holds. -/
theorem run_induction {h : Handlers β μ ο σ} {l : Location} {P : Traffic β μ ο σ → Prop}
    {T : Traffic β μ ο σ} {events : List (Event β μ ο σ)} (hstart : P T)
    (henter : ∀ T r, P T → P (T.enter l r))
    (hresume : ∀ T i v nanos, P T → T.flights[i]? = some (.resting v nanos) →
      P (T.resumed h l i v))
    (hland : ∀ T i t out o, P T → .answer i o ∈ events → T.flights[i]? = some (.sending t out) →
      P (T.landed h l i t o))
    (hchange : ∀ T f, P T → .change f ∈ events → P { T with site := f T.site }) :
    P (T.run h l events) := by
  have hwake : ∀ T i, P T → P (T.wake h l i) := by
    intro T i hT
    unfold wake
    split
    · rename_i v nanos hflight
      exact hresume T i v nanos hT hflight
    · exact hT
  refine List.foldlRecOn events (step h l) hstart fun T hT event hevent => ?_
  cases event with
  | arrive r => exact hwake _ _ (henter T r hT)
  | answer i o =>
      show P (T.answer h l i o)
      unfold answer
      split
      · rename_i t out hflight
        exact hland T i t out o hT hevent hflight
      · exact hT
  | wake i => exact hwake T i hT
  | change f => exact hchange T f hT hevent

@[simp] theorem flights_enter (l : Location) (r : Request) (T : Traffic β μ ο σ) :
    (T.enter l r).flights = T.flights ++ [.resting (Visit.first l r T.site) none] := rfl

@[simp] theorem flights_resumed (h : Handlers β μ ο σ) (l : Location) (i : Nat) (v : Visit)
    (T : Traffic β μ ο σ) :
    (T.resumed h l i v).flights = T.flights.set i (resume h l v T.site).1 := rfl

@[simp] theorem done_resumed (h : Handlers β μ ο σ) (l : Location) (i : Nat) (v : Visit)
    (T : Traffic β μ ο σ) : (T.resumed h l i v).done = T.done ++ v.deeds h l T.site := by
  simp [done, resumed]

end

@[simp] theorem done_start (s : Site β μ ο σ) : (start s).done = [] := rfl

@[simp] theorem flights_landed (h : Handlers β μ ο σ) (l : Location) (i : Nat) (t : Trial μ ο)
    (o : Outcome) (T : Traffic β μ ο σ) :
    (T.landed h l i t o).flights = T.flights.set i (land h l t o T.site).1 := rfl

@[simp] theorem done_landed (h : Handlers β μ ο σ) (l : Location) (i : Nat) (t : Trial μ ο)
    (o : Outcome) (T : Traffic β μ ο σ) :
    (T.landed h l i t o).done = T.done ++ [.ended t (t.attempt o false T.site.now) true] := by
  simp [done, landed]

end Traffic

/-! ## Waiting for backends -/

/-- Only a request that was sent waits for its backend. -/
theorem trial?_conclude (h : Handlers β μ ο σ) (l : Location) (t : Trial μ ο) (o : Outcome)
    (intercepted : Bool) (s : Site β μ ο σ) : (conclude h l t o intercepted s).1.trial? = none := by
  rw [conclude_eq]
  unfold proceed
  split
  · rcases l.failover.draw _ _ with ⟨rest, draws⟩
    cases rest <;> rfl
  · rfl

theorem trial?_land (h : Handlers β μ ο σ) (l : Location) (t : Trial μ ο) (o : Outcome)
    (s : Site β μ ο σ) : (land h l t o s).1.trial? = none :=
  trial?_conclude h l t o false _

/-- The attempt that a round leaves to a backend. -/
def Round.trial? : Round μ ο → Option (Trial μ ο)
  | .sent t _ => some t
  | _ => none

theorem runMiddlewares_pass {h : Handlers β μ ο σ} {ms ran : List (String × μ)} {r r' : Request}
    {s s' : Site β μ ο σ} (hrun : runMiddlewares h ms r s = (ran, .pass, r', s')) : ran = ms := by
  induction ms generalizing ran r s with
  | nil =>
      cases hrun
      rfl
  | cons m ms ih =>
      unfold runMiddlewares at hrun
      rcases hask : h.onRequest m r s with ⟨verdict, r₁, s₁⟩
      rw [hask] at hrun
      cases verdict with
      | pass =>
          rcases hrest : runMiddlewares h ms r₁ s₁ with ⟨ran', verdict', r₂, s₂⟩
          simp only [hrest] at hrun
          cases hrun
          rw [ih hrest]
      | respond response => cases hrun
      | reject rejection => cases hrun
      | crash => cases hrun

/-- A request that cannot be made for an endpoint is an internal error. -/
theorem Outbound.internal_of_ofRequest {r : Request} {endpoint : Endpoint} {trust : Bool}
    {e : Error} (h : Outbound.ofRequest r endpoint trust = .error e) :
    ∃ message, e = .internal message := by
  unfold ofRequest at h
  split at h
  · exact ⟨_, (Except.error.inj h).symm⟩
  · cases h

section

variable [Balancer β]

theorem trial?_resume (h : Handlers β μ ο σ) (l : Location) (v : Visit) (s : Site β μ ο σ) :
    (resume h l v s).1.trial? = (v.round h l s).1.trial? := by
  rw [resume_eq]
  cases (v.round h l s).1 with
  | unplaced e => rfl
  | brokeDown => rfl
  | settled t o intercepted => exact trial?_conclude h l t o intercepted _
  | sent t out => rfl

/-- An attempt of a round at an endpoint that the pool gave, with the request as the middlewares
leave it. The observers at the beginning of the round watch it. -/
structure Trial.Begun (t : Trial μ ο) (h : Handlers β μ ο σ) (v : Visit) (s : Site β μ ο σ) :
    Prop where
  member : (v.opening h s).1 = .ok t.member
  request : t.visit.request =
    (runMiddlewares h (v.opening h s).2.middlewares.entries v.request (v.opening h s).2).2.2.1
  watching : t.watching = s.observers.entries

/-- One that all middlewares let pass. -/
structure Trial.Passed (t : Trial μ ο) (h : Handlers β μ ο σ) (v : Visit) (s : Site β μ ο σ) :
    Prop extends t.Begun h v s where
  ran : t.ran = (v.opening h s).2.middlewares.entries

/-- What a round can come to. -/
inductive Round.Of (h : Handlers β μ ο σ) (v : Visit) (s : Site β μ ο σ) : Round μ ο → Prop
  | unplaced {e} : Of h v s (.unplaced e)
  | brokeDown : Of h v s .brokeDown
  | intercepted {t o} (begun : t.Begun h v s) : Of h v s (.settled t o true)
  | unsendable {t message} (passed : t.Passed h v s) :
      Of h v s (.settled t (.error (.internal message)) false)
  | sent {t out} (passed : t.Passed h v s) : Of h v s (.sent t out)

theorem Visit.round_of (h : Handlers β μ ο σ) (l : Location) (v : Visit) (s : Site β μ ο σ) :
    (v.round h l s).1.Of h v s := by
  unfold Visit.round
  rcases hopening : v.opening h s with ⟨e | m, s'⟩
  · exact .unplaced
  · rcases hrun : runMiddlewares h s'.middlewares.entries v.request s' with ⟨ran, verdict, r, s''⟩
    have hbegun : Trial.Begun
        ⟨{ v.toNext m with request := r }, m, s'.now, ran, s.observers.entries⟩ h v s := by
      constructor
      · rw [hopening]
      · rw [hopening, hrun]
      · rfl
    simp only [hrun]
    cases verdict with
    | crash => exact .brokeDown
    | respond response => exact .intercepted hbegun
    | reject rejection => exact .intercepted hbegun
    | pass =>
        have hran : ran = (v.opening h s).2.middlewares.entries := by
          rw [hopening]
          exact runMiddlewares_pass hrun
        simp only [Round.ofVerdict]
        cases hout : Outbound.ofRequest r m.endpoint l.trustForwarded with
        | error e =>
            obtain ⟨message, rfl⟩ := Outbound.internal_of_ofRequest hout
            exact .unsendable ⟨hbegun, hran⟩
        | ok out => exact .sent ⟨hbegun, hran⟩

end

end Gateway
