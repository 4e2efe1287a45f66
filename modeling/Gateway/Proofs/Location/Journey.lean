import Gateway.Location.Flight
import Mathlib.Logic.Function.Iterate

/-!
# Journeys

A flight stops where its request waits, and what happens meanwhile is up to its
surroundings. A journey is the same without the stops: all attempts of a request, one
after another, and how they end. Both come to the same end in the same state.
-/

namespace Gateway

variable {β μ ο σ : Type}

/-- What happens while a request waits: a backend answers, or a rest is over. In the
meantime other requests and changes to the pool or the chains may do anything to the site. -/
structure Surroundings (β μ ο σ : Type) where
  answer : Trial μ ο → Outbound → Site β μ ο σ → Outcome × Site β μ ο σ
  rested : Visit → Option Nat → Site β μ ο σ → Site β μ ο σ

/-- Every endpoint always answers in the same way, and nothing else happens. -/
def Surroundings.quiet (outcome : Member → Outcome) : Surroundings β μ ο σ where
  answer t _ s := (outcome t.member, s)
  rested _ nanos s := { s with now := s.now + nanos.getD 0 }

/-- There are no handlers. -/
def Handlers.none : Handlers β Empty Empty σ where
  onRequest m := nomatch m.2
  onResponse m := nomatch m.2
  seeRequest o := nomatch o.2
  seeResponse o := nomatch o.2
  seeFailure o := nomatch o.2

/-- A flight goes on from the point where it waits to the next. -/
def Flight.step [Balancer β] (h : Handlers β μ ο σ) (l : Location) (e : Surroundings β μ ο σ) :
    Flight μ ο × Site β μ ο σ → Flight μ ο × Site β μ ο σ
  | (.sending t out, s) =>
      let (o, s) := e.answer t out s
      land h l t o s
  | (.resting v nanos, s) => resume h l v (e.rested v nanos s)
  | (.finished r o, s) => (.finished r o, s)
  | (.crashed, s) => (.crashed, s)

/-- An attempt that was made, and the number to be drawn for a rest behind it. -/
structure Leg where
  attempt : Attempt
  draw : Float

inductive Ending where
  /-- By the outcome of the last attempt. -/
  | answered (o : Outcome)
  /-- Because no endpoint was to be had for another attempt. -/
  | unplaced (e : Error)
  /-- By a breakdown. -/
  | broken

def Ending.isBroken : Ending → Bool
  | .broken => true
  | _ => false

theorem Ending.isBroken_iff {e : Ending} : e.isBroken = true ↔ e = .broken := by
  cases e <;> simp [isBroken]

structure Journey (β μ ο σ : Type) where
  legs : List Leg
  request : Request
  ending : Ending
  site : Site β μ ο σ

namespace Journey

def flight (j : Journey β μ ο σ) : Flight μ ο :=
  match j.ending with
  | .answered o => .finished j.request o
  | .unplaced e => .finished j.request (.error e)
  | .broken => .crashed

/-- The attempts that were begun; for the last one there may have been no endpoint. -/
def rounds (j : Journey β μ ο σ) : Nat :=
  match j.ending with
  | .unplaced _ => j.legs.length + 1
  | _ => j.legs.length

theorem length_le_rounds (j : Journey β μ ο σ) : j.legs.length ≤ j.rounds := by
  unfold rounds
  split <;> omega

def after (leg : Leg) (j : Journey β μ ο σ) : Journey β μ ο σ :=
  { j with legs := leg :: j.legs }

theorem rounds_after (leg : Leg) (j : Journey β μ ο σ) : (after leg j).rounds = j.rounds + 1 := by
  unfold rounds after
  cases j.ending <;> rfl

end Journey

/-- The attempt that ends, the request and the site when everyone has been told. -/
def settle (h : Handlers β μ ο σ) (t : Trial μ ο) (o : Outcome) (intercepted : Bool)
    (s : Site β μ ο σ) : Attempt × Request × Site β μ ο σ :=
  let a : Attempt := ⟨t.member.endpoint, o, s.now - t.started, intercepted⟩
  let (r, s) := tellMiddlewares h a t.ran (t.visit.request.record a.summary) s
  (a, r, tellObservers h a t.watching r s)

/-- A whole attempt at an endpoint. It fails only by the breakdown of a middleware. -/
def tryAt (h : Handlers β μ ο σ) (l : Location) (e : Surroundings β μ ο σ) (v : Visit)
    (m : Member) (watching : List (String × ο)) (s : Site β μ ο σ) :
    Except (Site β μ ο σ) (Attempt × Request × Site β μ ο σ) :=
  match runMiddlewares h s.middlewares.entries v.request s with
  | (ran, verdict, r, s') =>
      let t : Trial μ ο := ⟨{ v with request := r }, m, s.now, ran, watching⟩
      match verdict with
      | .crash => .error s'
      | .respond response => .ok (settle h t (.ok response) true s')
      | .reject rejection => .ok (settle h t (.error (.rejected rejection)) true s')
      | .pass =>
          match Outbound.ofRequest r m.endpoint l.trustForwarded with
          | .error err => .ok (settle h t (.error err) false s')
          | .ok out =>
              let (o, s') := e.answer t out (s'.startAttempt m)
              .ok (settle h t o false (s'.finishAttempt m o.isSuccess))

/-- An attempt that reaches the backend. -/
theorem tryAt_of_pass {h : Handlers β μ ο σ} {l : Location} (e : Surroundings β μ ο σ) {v : Visit}
    {m : Member} {watching : List (String × ο)} {s s' : Site β μ ο σ} {ran : List (String × μ)}
    {r : Request} {out : Outbound} {t : Trial μ ο}
    (hrun : runMiddlewares h s.middlewares.entries v.request s = (ran, .pass, r, s'))
    (hout : Outbound.ofRequest r m.endpoint l.trustForwarded = .ok out)
    (ht : t = ⟨{ v with request := r }, m, s.now, ran, watching⟩) :
    tryAt h l e v m watching s =
      .ok (settle h t (e.answer t out (s'.startAttempt m)).1 false
        ((e.answer t out (s'.startAttempt m)).2.finishAttempt m
          (e.answer t out (s'.startAttempt m)).1.isSuccess)) := by
  rw [ht]
  simp only [tryAt, hrun, hout]

def Rest.pause? : Rest → Option (Option Nat)
  | .none => some Option.none
  | .millis n => some (some (Duration.ofMillis n))
  | .overflow => Option.none

def Visit.toNext (v : Visit) (m : Member) : Visit :=
  { v with tried := m.id :: v.tried, made := v.made + 1 }

/-- The observers of an attempt are told of the request. -/
def announce (h : Handlers β μ ο σ) (r : Request) (s : Site β μ ο σ) : Site β μ ο σ :=
  s.observers.entries.foldl (fun s o => h.seeRequest o r s) s

theorem FailoverPolicy.lt_of_shouldRetry {p : FailoverPolicy} {m : Method} {a : Attempt}
    {no budget : Nat} (h : p.shouldRetry m a no budget = true) : no < budget := by
  unfold shouldRetry at h
  rw [Bool.and_eq_true, Bool.and_eq_true, decide_eq_true_eq] at h
  exact h.1.1

variable {h : Handlers β μ ο σ} {l : Location} {e : Surroundings β μ ο σ}

theorem FailoverPolicy.draw_fst (p : FailoverPolicy) (no : Nat) (d : Draws) :
    (p.draw no d).1 = p.backoff d.take.1 no := by
  unfold draw backoff
  by_cases hrests : p.rests no = true
  · rw [if_pos hrests, if_pos hrests]
    simp only [if_pos hrests]
  · rw [if_neg hrests, if_neg hrests]

theorem Rest.pause?_eq_none {rest : Rest} : rest.pause? = Option.none ↔ rest = .overflow := by
  cases rest <;> simp [pause?]

theorem conclude_eq (h : Handlers β μ ο σ) (l : Location) (t : Trial μ ο) (o : Outcome)
    (intercepted : Bool) (s : Site β μ ο σ) :
    conclude h l t o intercepted s =
      proceed l { t.visit with request := (settle h t o intercepted s).2.1 }
        (settle h t o intercepted s).1 (settle h t o intercepted s).2.2 := by
  rfl

theorem proceed_finished {v : Visit} {a : Attempt} {s : Site β μ ο σ}
    (hretry : l.failover.shouldRetry v.request.method a v.made v.budget = false) :
    proceed (μ := μ) (ο := ο) l v a s = (.finished v.request a.outcome, s) := by
  unfold proceed
  rw [hretry]
  rfl

theorem proceed_retry {v : Visit} {a : Attempt} {s : Site β μ ο σ}
    (hretry : l.failover.shouldRetry v.request.method a v.made v.budget = true) :
    proceed l v a s =
      (match (l.failover.backoff s.draws.take.1 v.made).pause? with
        | none => .crashed
        | some nanos => .resting v nanos,
      { s with draws := (l.failover.draw v.made s.draws).2 }) := by
  unfold proceed
  rw [if_pos hretry, ← FailoverPolicy.draw_fst]
  rcases l.failover.draw v.made s.draws with ⟨rest, draws⟩
  cases rest <;> rfl

/-- An attempt that does not end is one in which a middleware breaks down. -/
theorem crash_of_tryAt {v : Visit} {m : Member} {watching : List (String × ο)}
    {s s' : Site β μ ο σ} (htry : tryAt h l e v m watching s = .error s') :
    (runMiddlewares h s.middlewares.entries v.request s).2.1 = .crash ∧
      (runMiddlewares h s.middlewares.entries v.request s).2.2.2 = s' := by
  unfold tryAt at htry
  rcases hrun : runMiddlewares h s.middlewares.entries v.request s with ⟨ran, verdict, r, s₁⟩
  simp only [hrun] at htry
  cases verdict with
  | crash => exact ⟨rfl, Except.error.inj htry⟩
  | respond response => cases htry
  | reject rejection => cases htry
  | pass =>
      cases hout : Outbound.ofRequest r m.endpoint l.trustForwarded with
      | error err =>
          simp only [hout] at htry
          cases htry
      | ok out =>
          simp only [hout] at htry
          cases htry

theorem attemptAt_of_crash {v : Visit} {m : Member} {watching : List (String × ο)}
    {s s' : Site β μ ο σ} (htry : tryAt h l e v m watching s = .error s') :
    attemptAt h l v m watching s = (.crashed, s') := by
  obtain ⟨hverdict, hsite⟩ := crash_of_tryAt htry
  unfold attemptAt
  rcases hrun : runMiddlewares h s.middlewares.entries v.request s with ⟨ran, verdict, r, s₁⟩
  rw [hrun] at hverdict hsite
  obtain rfl : verdict = .crash := hverdict
  rw [← hsite]

theorem runMiddlewares_ne_crash (hh : ∀ m r s, (h.onRequest m r s).1 ≠ .crash)
    (ms : List (String × μ)) (r : Request) (s : Site β μ ο σ) :
    (runMiddlewares h ms r s).2.1 ≠ .crash := by
  induction ms generalizing r s with
  | nil => exact Verdict.noConfusion
  | cons m ms ih =>
      have hverdict := hh m r s
      unfold runMiddlewares
      rcases hcall : h.onRequest m r s with ⟨verdict, r', s'⟩
      rw [hcall] at hverdict
      cases verdict with
      | pass => exact ih r' s'
      | respond response => exact Verdict.noConfusion
      | reject rejection => exact Verdict.noConfusion
      | crash => exact absurd rfl hverdict

/-- What each middleware leaves true of a request is true behind all of them. -/
theorem runMiddlewares_request {P : Request → Prop}
    (hP : ∀ m r s, P r → P (h.onRequest m r s).2.1) (ms : List (String × μ)) {r : Request}
    (hr : P r) (s : Site β μ ο σ) : P (runMiddlewares h ms r s).2.2.1 := by
  induction ms generalizing r s with
  | nil => exact hr
  | cons m ms ih =>
      have hm := hP m r s hr
      unfold runMiddlewares
      rcases hcall : h.onRequest m r s with ⟨verdict, r', s'⟩
      rw [hcall] at hm
      cases verdict with
      | pass => exact ih hm s'
      | respond response => exact hm
      | reject rejection => exact hm
      | crash => exact hm

theorem tellMiddlewares_request {P : Request → Prop} {a : Attempt}
    (hP : ∀ m r s, P r → P (h.onResponse m r a s).1) (ran : List (String × μ)) {r : Request}
    (hr : P r) (s : Site β μ ο σ) : P (tellMiddlewares h a ran r s).1 := by
  unfold tellMiddlewares
  induction ran generalizing r s with
  | nil => exact hr
  | cons m ran ih => exact ih (hP m r s hr) _

/-- What each middleware leaves true of the site is true behind all of them. -/
theorem runMiddlewares_site {P : Site β μ ο σ → Prop}
    (hP : ∀ m r s, P s → P (h.onRequest m r s).2.2) (ms : List (String × μ)) (r : Request)
    {s : Site β μ ο σ} (hs : P s) : P (runMiddlewares h ms r s).2.2.2 := by
  induction ms generalizing r s with
  | nil => exact hs
  | cons m ms ih =>
      have hm := hP m r s hs
      unfold runMiddlewares
      rcases hcall : h.onRequest m r s with ⟨verdict, r', s'⟩
      rw [hcall] at hm
      cases verdict with
      | pass => exact ih r' hm
      | respond response => exact hm
      | reject rejection => exact hm
      | crash => exact hm

theorem announce_site {P : Site β μ ο σ → Prop} (hP : ∀ o r s, P s → P (h.seeRequest o r s))
    (r : Request) {s : Site β μ ο σ} (hs : P s) : P (announce h r s) :=
  List.foldlRecOn _ _ hs fun s' hs' o _ => hP o r s' hs'

/-- What everyone who is told of the end of an attempt leaves true of the site. -/
theorem settle_site {P : Site β μ ο σ → Prop}
    (htell : ∀ m r a s, P s → P (h.onResponse m r a s).2)
    (hsee : ∀ o r a s, P s → P (h.seeResponse o r a s)) (t : Trial μ ο) (o : Outcome)
    (intercepted : Bool) {s : Site β μ ο σ} (hs : P s) :
    P (settle h t o intercepted s).2.2 := by
  have htold : ∀ (a : Attempt) (r : Request), P (tellMiddlewares h a t.ran r s).2 := by
    intro a r
    exact List.foldlRecOn (motive := fun p : Request × Site β μ ο σ => P p.2) t.ran _ hs
      fun p hp m _ => htell m p.1 a p.2 hp
  exact List.foldlRecOn _ _ (htold _ _) fun s' hs' u _ => hsee u _ _ s' hs'

theorem tryAt_ne_error (hh : ∀ m r s, (h.onRequest m r s).1 ≠ .crash) {v : Visit} {m : Member}
    {watching : List (String × ο)} {s s' : Site β μ ο σ} :
    tryAt h l e v m watching s ≠ .error s' := by
  intro htry
  exact runMiddlewares_ne_crash hh s.middlewares.entries v.request s (crash_of_tryAt htry).1

/-- An attempt that ends does so behind the middlewares or behind the answer of the backend. -/
theorem settle_of_tryAt {v : Visit} {m : Member} {watching : List (String × ο)}
    {s s' : Site β μ ο σ} {a : Attempt} {r : Request}
    (htry : tryAt h l e v m watching s = .ok (a, r, s')) :
    ∃ (t : Trial μ ο) (o : Outcome) (intercepted : Bool) (s₁ : Site β μ ο σ), t.member = m ∧
      settle h t o intercepted s₁ = (a, r, s') ∧
      (s₁ = (runMiddlewares h s.middlewares.entries v.request s).2.2.2 ∨
        ∃ out, s₁ = (e.answer t out ((runMiddlewares h s.middlewares.entries v.request
          s).2.2.2.startAttempt m)).2.finishAttempt m o.isSuccess) := by
  unfold tryAt at htry
  rcases hrun : runMiddlewares h s.middlewares.entries v.request s with ⟨ran, verdict, r₁, s₁⟩
  simp only [hrun] at htry
  cases verdict with
  | crash => cases htry
  | respond response => exact ⟨_, _, _, _, rfl, Except.ok.inj htry, Or.inl rfl⟩
  | reject rejection => exact ⟨_, _, _, _, rfl, Except.ok.inj htry, Or.inl rfl⟩
  | pass =>
      cases hout : Outbound.ofRequest r₁ m.endpoint l.trustForwarded with
      | error err =>
          simp only [hout] at htry
          exact ⟨_, _, _, _, rfl, Except.ok.inj htry, Or.inl rfl⟩
      | ok out =>
          simp only [hout] at htry
          exact ⟨_, _, _, _, rfl, Except.ok.inj htry, Or.inr ⟨out, rfl⟩⟩

variable [Balancer β]

/-- All attempts from here on. -/
def travel (h : Handlers β μ ο σ) (l : Location) (e : Surroundings β μ ο σ) (v : Visit)
    (s : Site β μ ο σ) : Journey β μ ο σ :=
  match selectEndpoint v.tried (announce h v.request s) with
  | (.error err, s') => ⟨[], v.request, .unplaced err,
      s.observers.entries.foldl (fun s o => h.seeFailure o v.request err s) s'⟩
  | (.ok m, s') =>
      match tryAt h l e (v.toNext m) m s.observers.entries s' with
      | .error s => ⟨[], v.request, .broken, s⟩
      | .ok (a, r, s) =>
          if _h : l.failover.shouldRetry r.method a (v.made + 1) v.budget = true then
            let (rest, draws) := l.failover.draw (v.made + 1) s.draws
            match rest.pause? with
            | none => ⟨[⟨a, s.draws.take.1⟩], r, .broken, { s with draws }⟩
            | some nanos =>
                let v' := { v.toNext m with request := r }
                (travel h l e v' (e.rested v' nanos { s with draws })).after ⟨a, s.draws.take.1⟩
          else ⟨[⟨a, s.draws.take.1⟩], r, .answered a.outcome, s⟩
termination_by v.budget - v.made
decreasing_by
  have hlt := FailoverPolicy.lt_of_shouldRetry _h
  show v.budget - (v.made + 1) < v.budget - v.made
  omega

/-- A request with its first attempt still to come. -/
def Visit.first (l : Location) (r : Request) (s : Site β μ ο σ) : Visit :=
  { request := r, budget := l.failover.budget (Balancer.members s.pool).length }

/-- All attempts of a request. -/
def roundTrip (h : Handlers β μ ο σ) (l : Location) (e : Surroundings β μ ο σ) (r : Request)
    (s : Site β μ ο σ) : Journey β μ ο σ :=
  travel h l e (Visit.first l r s) s

/-! ## The attempts of a journey -/

/-- An attempt is made at an endpoint and ends. -/
structure Attempted (h : Handlers β μ ο σ) (l : Location) (e : Surroundings β μ ο σ) (v : Visit)
    (s : Site β μ ο σ) (m : Member) (a : Attempt) (r : Request) (s' : Site β μ ο σ) : Prop where
  ends : ∃ s₁, selectEndpoint v.tried (announce h v.request s) = (.ok m, s₁) ∧
    tryAt h l e (v.toNext m) m s.observers.entries s₁ = .ok (a, r, s')

namespace Attempted

variable {v : Visit} {s s' : Site β μ ο σ} {m : Member} {a : Attempt} {r : Request}

theorem travel_last (ha : Attempted h l e v s m a r s')
    (hretry : l.failover.shouldRetry r.method a (v.made + 1) v.budget = false) :
    travel h l e v s = ⟨[⟨a, s'.draws.take.1⟩], r, .answered a.outcome, s'⟩ := by
  obtain ⟨s₁, hselect, htry⟩ := ha
  rw [travel, hselect]
  simp only [htry, hretry]
  rfl

theorem travel_overflow (ha : Attempted h l e v s m a r s')
    (hretry : l.failover.shouldRetry r.method a (v.made + 1) v.budget = true)
    (hrest : l.failover.backoff s'.draws.take.1 (v.made + 1) = .overflow) :
    travel h l e v s = ⟨[⟨a, s'.draws.take.1⟩], r, .broken,
      { s' with draws := (l.failover.draw (v.made + 1) s'.draws).2 }⟩ := by
  obtain ⟨s₁, hselect, htry⟩ := ha
  rw [← FailoverPolicy.draw_fst, ← Rest.pause?_eq_none] at hrest
  rw [travel, hselect]
  simp only [htry, dif_pos hretry, hrest]

theorem travel_next (ha : Attempted h l e v s m a r s')
    (hretry : l.failover.shouldRetry r.method a (v.made + 1) v.budget = true) {nanos : Option Nat}
    (hpause : (l.failover.backoff s'.draws.take.1 (v.made + 1)).pause? = some nanos)
    {v' : Visit} (hv : v' = { v.toNext m with request := r }) {s'' : Site β μ ο σ}
    (hs : s'' = e.rested v' nanos { s' with draws := (l.failover.draw (v.made + 1) s'.draws).2 }) :
    travel h l e v s = (travel h l e v' s'').after ⟨a, s'.draws.take.1⟩ := by
  obtain ⟨s₁, hselect, htry⟩ := ha
  rw [← FailoverPolicy.draw_fst] at hpause
  rw [travel, hselect]
  simp only [htry, dif_pos hretry, hpause, hs, hv]

end Attempted

/-- A journey ends at the first round or goes on behind an attempt that is to be followed
by another one. -/
theorem travel_induction {P : Visit → Site β μ ο σ → Journey β μ ο σ → Prop}
    (unplaced : ∀ v s err s', selectEndpoint v.tried (announce h v.request s) = (.error err, s') →
      P v s ⟨[], v.request, .unplaced err,
        s.observers.entries.foldl (fun s o => h.seeFailure o v.request err s) s'⟩)
    (crashed : ∀ v s m s₁ s', selectEndpoint v.tried (announce h v.request s) = (.ok m, s₁) →
      tryAt h l e (v.toNext m) m s.observers.entries s₁ = .error s' →
      P v s ⟨[], v.request, .broken, s'⟩)
    (last : ∀ v s m a r s', Attempted h l e v s m a r s' →
      l.failover.shouldRetry r.method a (v.made + 1) v.budget = false →
      P v s ⟨[⟨a, s'.draws.take.1⟩], r, .answered a.outcome, s'⟩)
    (overflow : ∀ v s m a r s', Attempted h l e v s m a r s' →
      l.failover.shouldRetry r.method a (v.made + 1) v.budget = true →
      l.failover.backoff s'.draws.take.1 (v.made + 1) = .overflow →
      P v s ⟨[⟨a, s'.draws.take.1⟩], r, .broken,
        { s' with draws := (l.failover.draw (v.made + 1) s'.draws).2 }⟩)
    (next : ∀ v s m a r s' nanos v' s'', Attempted h l e v s m a r s' →
      l.failover.shouldRetry r.method a (v.made + 1) v.budget = true →
      (l.failover.backoff s'.draws.take.1 (v.made + 1)).pause? = some nanos →
      v' = { v.toNext m with request := r } →
      s'' = e.rested v' nanos { s' with draws := (l.failover.draw (v.made + 1) s'.draws).2 } →
      P v' s'' (travel h l e v' s'') →
      P v s ((travel h l e v' s'').after ⟨a, s'.draws.take.1⟩))
    (v : Visit) (s : Site β μ ο σ) : P v s (travel h l e v s) := by
  -- Every attempt that is followed by another one leaves less of the budget.
  induction hn : v.budget - v.made using Nat.strongRecOn generalizing v s with
  | ind n ih =>
      rw [travel]
      rcases hselect : selectEndpoint v.tried (announce h v.request s) with ⟨err | m, s₁⟩
      · exact unplaced v s err s₁ hselect
      rcases htry : tryAt h l e (v.toNext m) m s.observers.entries s₁ with s' | ⟨a, r, s'⟩
      · simp only [htry]
        exact crashed v s m s₁ s' hselect htry
      have hattempted : Attempted h l e v s m a r s' := ⟨s₁, hselect, htry⟩
      simp only [htry]
      by_cases hretry : l.failover.shouldRetry r.method a (v.made + 1) v.budget = true
      · rw [dif_pos hretry]
        have hdraw := l.failover.draw_fst (v.made + 1) s'.draws
        cases hpause : (l.failover.draw (v.made + 1) s'.draws).1.pause? with
        | none =>
            rw [Rest.pause?_eq_none, hdraw] at hpause
            exact overflow v s m a r s' hattempted hretry hpause
        | some nanos =>
            rw [hdraw] at hpause
            refine next v s m a r s' nanos _ _ hattempted hretry hpause rfl rfl ?_
            refine ih _ ?_ _ _ rfl
            have hlt := FailoverPolicy.lt_of_shouldRetry hretry
            show v.budget - (v.made + 1) < n
            omega
      · rw [dif_neg hretry]
        exact last v s m a r s' hattempted (Bool.eq_false_iff.mpr hretry)

/-! ## Flights and journeys -/

/-- A flight comes from one state to another. -/
def Leads (h : Handlers β μ ο σ) (l : Location) (e : Surroundings β μ ο σ)
    (f g : Flight μ ο × Site β μ ο σ) : Prop :=
  ∃ n, (Flight.step h l e)^[n] f = g

theorem Leads.refl (f : Flight μ ο × Site β μ ο σ) : Leads h l e f f :=
  ⟨0, rfl⟩

theorem Leads.of_step {f g : Flight μ ο × Site β μ ο σ}
    (hlead : Leads h l e (Flight.step h l e f) g) : Leads h l e f g := by
  obtain ⟨n, hn⟩ := hlead
  exact ⟨n + 1, hn⟩

/-- What follows an attempt that has ended. -/
theorem leads_attemptAt {v : Visit} {m : Member} {watching : List (String × ο)}
    {s s' : Site β μ ο σ} {a : Attempt} {r : Request} {g : Flight μ ο × Site β μ ο σ}
    (htry : tryAt h l e v m watching s = .ok (a, r, s'))
    (hlead : Leads h l e (proceed l { v with request := r } a s') g) :
    Leads h l e (attemptAt h l v m watching s) g := by
  unfold tryAt at htry
  unfold attemptAt
  rcases hrun : runMiddlewares h s.middlewares.entries v.request s with ⟨ran, verdict, r₁, s₁⟩
  simp only [hrun] at htry ⊢
  cases verdict with
  | crash => cases htry
  | respond response =>
      simp only [conclude_eq, Except.ok.inj htry]
      exact hlead
  | reject rejection =>
      simp only [conclude_eq, Except.ok.inj htry]
      exact hlead
  | pass =>
      cases hout : Outbound.ofRequest r₁ m.endpoint l.trustForwarded with
      | error err =>
          simp only [hout] at htry ⊢
          simp only [conclude_eq, Except.ok.inj htry]
          exact hlead
      | ok out =>
          simp only [hout] at htry ⊢
          -- Only this attempt waits; the answer of the backend is one more step.
          refine Leads.of_step ?_
          simp only [Flight.step, land, conclude_eq, Except.ok.inj htry]
          exact hlead

theorem resume_of_selected {v : Visit} {s s₁ : Site β μ ο σ} {m : Member}
    (hselect : selectEndpoint v.tried (announce h v.request s) = (.ok m, s₁)) :
    resume h l v s = attemptAt h l (v.toNext m) m s.observers.entries s₁ := by
  unfold announce at hselect
  simp only [resume, hselect]
  rfl

/-- The flight of a request ends as its journey does. -/
theorem leads_travel (v : Visit) (s : Site β μ ο σ) :
    Leads h l e (resume h l v s) ((travel h l e v s).flight, (travel h l e v s).site) := by
  refine travel_induction (P := fun v s j => Leads h l e (resume h l v s) (j.flight, j.site))
    ?_ ?_ ?_ ?_ ?_ v s
  · intro v s err s' hselect
    unfold announce at hselect
    simp only [resume, hselect]
    exact Leads.refl _
  · intro v s m s₁ s' hselect htry
    rw [resume_of_selected hselect, attemptAt_of_crash htry]
    exact Leads.refl _
  · rintro v s m a r s' ⟨s₁, hselect, htry⟩ hretry
    rw [resume_of_selected hselect]
    refine leads_attemptAt htry ?_
    rw [proceed_finished hretry]
    exact Leads.refl _
  · rintro v s m a r s' ⟨s₁, hselect, htry⟩ hretry hrest
    rw [resume_of_selected hselect]
    refine leads_attemptAt htry ?_
    rw [proceed_retry hretry]
    simp only [Visit.toNext, Rest.pause?_eq_none.mpr hrest]
    exact Leads.refl _
  · rintro v s m a r s' nanos v' s'' ⟨s₁, hselect, htry⟩ hretry hpause rfl rfl hlead
    rw [resume_of_selected hselect]
    refine leads_attemptAt htry ?_
    rw [proceed_retry hretry]
    simp only [Visit.toNext, hpause]
    exact Leads.of_step hlead

theorem leads_roundTrip (r : Request) (s : Site β μ ο σ) :
    Leads h l e (launch h l r s) ((roundTrip h l e r s).flight, (roundTrip h l e r s).site) := by
  exact leads_travel _ _

/-! ## Two endpoints -/

/-- A pool that offers its endpoints in any order whatever, as if other requests turned it
all the time. -/
structure Offering where
  members : List Member
  order : Nat → Nat
  asked : Nat := 0

namespace Offering

def next (p : Offering) : Except Error Member × Offering :=
  match p.members[p.order p.asked % p.members.length]? with
  | some m => (.ok m, { p with asked := p.asked + 1 })
  | none => (.error .noEndpoint, p)

instance : Balancer Offering where
  name _ := "offering"
  members := members
  next := next
  add m p := (addMember m p.members).map fun members => { p with members }
  remove id p := .ok { p with members := p.members.filter (·.id ≠ id) }

theorem next_eq {p : Offering} (hp : p.members ≠ []) :
    ∃ m ∈ p.members, p.next = (.ok m, { p with asked := p.asked + 1 }) := by
  have hlt := Nat.mod_lt (p.order p.asked) (List.length_pos_iff.mpr hp)
  refine ⟨p.members[p.order p.asked % p.members.length], List.getElem_mem hlt, ?_⟩
  unfold next
  rw [List.getElem?_eq_getElem hlt]

end Offering

namespace Twins

def members : List Member :=
  [⟨0, ⟨.http, .domain "a", 80, "http://a/"⟩⟩, ⟨1, ⟨.http, .domain "b", 80, "http://b/"⟩⟩]

/-- Always offers the same endpoint. -/
def pool : Offering where
  members := members
  order _ := 0

def request : Request where
  id := 1
  method := .get
  uri := ⟨none, none, ⟨"/", none⟩⟩
  version := .http11
  headers := ⟨[]⟩
  peer := none

def location (p : FailoverPolicy) : Location where
  name := "api"
  failover := p

def site : Site Offering Empty Empty Unit where
  now := 0
  pool := pool
  ledger := .empty
  middlewares := .empty
  observers := .empty
  draws := ⟨[0.5]⟩
  shared := ()

/-- One backend does not answer, the other one does. -/
def outcome (m : Member) : Outcome :=
  if m.serial = 0 then .error (.timeout Duration.second) else .ok ⟨.ok, ⟨[]⟩, {}⟩

def journey (p : FailoverPolicy) : Journey Offering Empty Empty Unit :=
  roundTrip Handlers.none (location p) (.quiet outcome) request site

/-- Rests as long as a 64-bit number of milliseconds. -/
def longRests : FailoverPolicy where
  backoffBase := FailoverPolicy.maxMillis

end Twins

end Gateway
