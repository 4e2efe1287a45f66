import Gateway.Proofs.Breaker.Learning

/-!
# What an open breaker shields

The breaker stands before everything else in a location that was built from settings. While it
is open and has not rested for long enough, a request is over at once: nobody else is asked,
nothing is sent, and nothing changes but the turn of the endpoints and what the observers write
down.
-/

namespace Gateway

open Builtin

/-! ## A breaker that lets nothing pass -/

/-- The breaker is open, and the last failure is too recent for a trial. -/
structure Breaker.Shut (b : Breaker) (x : BreakerSettings) (now : Nat) : Prop where
  opened : b.circuit = .opened
  recent : ∃ failure, b.lastFailure = some failure ∧ now - failure < Duration.ofMillis x.timeout

theorem Breaker.Shut.permit {b : Breaker} {x : BreakerSettings} {now : Nat} (h : b.Shut x now) :
    b.permit x now = (false, b) := by
  obtain ⟨failure, hfailure, hrecent⟩ := h.recent
  have hrested : b.hasRested x now = false := by
    unfold hasRested
    rw [hfailure]
    exact decide_eq_false (Nat.not_le.mpr hrecent)
  unfold Breaker.permit
  rw [h.opened, hrested]
  rfl

theorem Store.setBreaker_self {τ : Type} (slot : Nat) (t : Store τ) :
    t.setBreaker slot (t.breaker slot) = t := by
  have hset : t.breakers.set slot (t.breakers[slot]?.getD .fresh) = t.breakers := by
    apply List.ext_getElem?
    intro i
    rw [List.getElem?_set]
    split
    · rename_i hi
      subst hi
      split
      · rename_i hlt
        rw [List.getElem?_eq_getElem hlt]
        rfl
      · rename_i hge
        exact (List.getElem?_eq_none (Nat.not_lt.mp hge)).symm
    · rfl
  unfold Store.setBreaker Store.breaker
  rw [hset]

/-- The attempt that the breaker ends. -/
def Member.turnedAway (m : Member) : Attempt where
  endpoint := m.endpoint
  outcome := .error (.rejected Breaker.rejection)
  duration := 0
  intercepted := true

/-- No policy has another attempt follow. -/
theorem Member.shouldRetry_turnedAway (m : Member) (p : FailoverPolicy) (q : Method)
    (no budget : Nat) : p.shouldRetry q m.turnedAway no budget = false := by
  simp [FailoverPolicy.shouldRetry, turnedAway]

/-- The client is told that the service is not available. -/
theorem Member.status_turnedAway (m : Member) {f : Error} (hf : m.turnedAway.outcome = .error f) :
    f.rejection.status.code = 503 := by
  cases hf
  rfl

section

variable {β ξ ζ τ : Type} {c : Custom β ξ ζ τ} {name : String} {x : BreakerSettings} {slot : Nat}
  {s : Workplace β ξ ζ τ}

theorem askBreaker_of_shut (h : (s.shared.breaker slot).Shut x s.now) :
    askBreaker x slot s = (.reject Breaker.rejection, s) := by
  unfold askBreaker
  rw [h.permit]
  simp only [modifyStore, Store.setBreaker_self]
  rfl

theorem tellBreaker_of_intercepted {a : Attempt} (ha : a.intercepted = true) :
    tellBreaker x slot a s = s := by
  unfold tellBreaker Breaker.observe
  rw [if_pos ha]
  simp only [modifyStore, Store.setBreaker_self]

/-- The breaker is the only middleware that runs. -/
theorem runMiddlewares_of_shut {rest : List (String × Middleware ξ)} (r : Request)
    (h : (s.shared.breaker slot).Shut x s.now) :
    runMiddlewares c.handlers ((name, .breaker x slot) :: rest) r s =
      ([(name, .breaker x slot)], .reject Breaker.rejection, r, s) := by
  have hask : c.handlers.onRequest (name, .breaker x slot) r s =
      (.reject Breaker.rejection, r, s) := by
    show ((askBreaker x slot s).1, r, (askBreaker x slot s).2) = _
    rw [askBreaker_of_shut h]
  unfold runMiddlewares
  rw [hask]

/-- The breaker takes no notice of the attempt that it has ended itself. -/
theorem settle_of_shut {t : Trial (Middleware ξ) (Observer ζ)}
    (hran : t.ran = [(name, .breaker x slot)]) (hstarted : t.started = s.now) :
    settle c.handlers t (.error (.rejected Breaker.rejection)) true s =
      (t.member.turnedAway, t.visit.request.record t.member.turnedAway.summary,
        tellObservers c.handlers t.member.turnedAway t.watching
          (t.visit.request.record t.member.turnedAway.summary) s) := by
  have hattempt : (⟨t.member.endpoint, .error (.rejected Breaker.rejection), s.now - t.started,
      true⟩ : Attempt) = t.member.turnedAway := by
    rw [hstarted, Nat.sub_self]
    rfl
  have htold : ∀ r, tellMiddlewares c.handlers t.member.turnedAway [(name, .breaker x slot)] r s =
      (r, s) := by
    intro r
    show (r, tellBreaker x slot t.member.turnedAway s) = _
    rw [tellBreaker_of_intercepted rfl]
  unfold settle
  simp only [hattempt, hran, htold]

/-- The one attempt of a request at a location that its breaker shields. -/
theorem tryAt_of_shut (l : Location) (e : Surroundings β (Middleware ξ) (Observer ζ) (Store τ))
    {rest : List (String × Middleware ξ)} (hentries : s.middlewares.entries =
      (name, .breaker x slot) :: rest) (h : (s.shared.breaker slot).Shut x s.now) (v : Visit)
    (m : Member) (watching : List (String × Observer ζ)) :
    tryAt c.handlers l e v m watching s =
      .ok (m.turnedAway, v.request.record m.turnedAway.summary,
        tellObservers c.handlers m.turnedAway watching
          (v.request.record m.turnedAway.summary) s) := by
  unfold tryAt
  rw [hentries, runMiddlewares_of_shut v.request h]
  simp only []
  rw [settle_of_shut rfl rfl]

theorem attemptAt_of_shut (l : Location) {rest : List (String × Middleware ξ)}
    (hentries : s.middlewares.entries = (name, .breaker x slot) :: rest)
    (h : (s.shared.breaker slot).Shut x s.now) (v : Visit) (m : Member)
    (watching : List (String × Observer ζ)) :
    attemptAt c.handlers l v m watching s =
      (.finished (v.request.record m.turnedAway.summary) m.turnedAway.outcome,
        tellObservers c.handlers m.turnedAway watching
          (v.request.record m.turnedAway.summary) s) := by
  unfold attemptAt
  rw [hentries, runMiddlewares_of_shut v.request h]
  simp only []
  rw [conclude_eq, settle_of_shut rfl rfl,
    proceed_finished (m.shouldRetry_turnedAway _ _ _ _)]

end

/-! ## Who watches -/

/-- The observers of a location that is built, with metrics or without. -/
def watchers {ζ : Type} (metrics : Bool) (name : String) : List (String × Observer ζ) :=
  if metrics then [("metrics", .metrics name)] else []

/-- What they write down of an attempt. -/
def Store.noted {τ : Type} (metrics : Bool) (name : String) (a : Attempt) (t : Store τ) : Store τ :=
  if metrics then { t with metrics := t.metrics.observeAttempt name a } else t

section

variable {β ξ ζ τ : Type} {c : Custom β ξ ζ τ} {metrics : Bool} {name : String}

def Site.noted (metrics : Bool) (name : String) (a : Attempt) (s : Workplace β ξ ζ τ) :
    Workplace β ξ ζ τ :=
  { s with shared := s.shared.noted metrics name a }

theorem announce_watchers {s : Workplace β ξ ζ τ}
    (hwatching : s.observers.entries = watchers metrics name) (r : Request) :
    announce c.handlers r s = s := by
  unfold announce
  rw [hwatching]
  cases metrics <;> rfl

theorem tellObservers_watchers (a : Attempt) (r : Request) (s : Workplace β ξ ζ τ) :
    tellObservers c.handlers a (watchers metrics name) r s = s.noted metrics name a := by
  cases metrics <;> rfl

end

/-! ## What is shielded -/

namespace Rotation

/-- The next endpoint has its turn. -/
def turned (p : Rotation) : Rotation :=
  { p with cursor := (p.cursor % p.members.length + 1) % p.members.length }

theorem next_turned {p : Rotation} (hp : p.members ≠ []) :
    ∃ m, p.members[p.cursor % p.members.length]? = some m ∧ p.next = (.ok m, p.turned) := by
  have hlt := Nat.mod_lt p.cursor (List.length_pos_iff.mpr hp)
  refine ⟨p.members[p.cursor % p.members.length], List.getElem?_eq_getElem hlt, ?_⟩
  unfold next
  simp only [List.getElem?_eq_getElem hlt]
  rfl

end Rotation

section

variable {ξ ζ τ : Type}

def Site.turned (s : Workplace Rotation ξ ζ τ) : Workplace Rotation ξ ζ τ :=
  { s with pool := s.pool.turned }

/-- A request comes to the site and is turned away by the breaker. -/
structure TurnsAway (c : Custom Rotation ξ ζ τ) (l : Location) (metrics : Bool)
    (s : Workplace Rotation ξ ζ τ) (r : Request) (m : Member) (s' : Workplace Rotation ξ ζ τ) :
    Prop where
  /-- An attempt is made at the endpoint whose turn it is. -/
  turn : s.pool.members[s.pool.cursor % s.pool.members.length]? = some m
  /-- The request is over at once, without waiting for a backend and without a rest. -/
  ends : launch c.handlers l r s =
    (.finished (r.record m.turnedAway.summary) m.turnedAway.outcome, s')
  /-- There is no other attempt, whatever happens around the request. -/
  once : ∀ e, roundTrip c.handlers l e r s =
    ⟨[⟨m.turnedAway, s.draws.take.1⟩], r.record m.turnedAway.summary,
      .answered m.turnedAway.outcome, s'⟩
  told : ∀ f, m.turnedAway.outcome = .error f → f.rejection.status.code = 503
  /-- Only the turn of the endpoints and what the observers write down has changed. -/
  still : s' = { s with
    pool := s.pool.turned
    shared := s.shared.noted metrics l.name m.turnedAway }

variable {c : Custom Rotation ξ ζ τ} {x : BreakerSettings} {slot : Nat}

theorem turnsAway_of_shut {l : Location} {metrics : Bool} {s : Workplace Rotation ξ ζ τ}
    {name : String} {rest : List (String × Middleware ξ)}
    (hentries : s.middlewares.entries = (name, .breaker x slot) :: rest)
    (hwatching : s.observers.entries = watchers metrics l.name)
    (hshut : (s.shared.breaker slot).Shut x s.now) (hpool : s.pool.members ≠ []) (r : Request) :
    ∃ m s', TurnsAway c l metrics s r m s' := by
  obtain ⟨m, hturn, hnext⟩ := Rotation.next_turned hpool
  have hpick : s.pick = (.ok m, s.turned) := by
    show (s.pool.next.1, { s with pool := s.pool.next.2 }) = _
    rw [hnext]
    rfl
  have hselect : selectEndpoint (Visit.first l r s).tried
      (announce c.handlers (Visit.first l r s).request s) = (.ok m, s.turned) := by
    show selectEndpoint [] (announce c.handlers r s) = _
    rw [announce_watchers hwatching, selectEndpoint, hpick]
    rfl
  -- The turn of the endpoints is nothing that the breaker or an observer looks at.
  have hentries' : s.turned.middlewares.entries = (name, .breaker x slot) :: rest := hentries
  have hshut' : (s.turned.shared.breaker slot).Shut x s.turned.now := hshut
  have htold : tellObservers c.handlers m.turnedAway s.observers.entries
      (r.record m.turnedAway.summary) s.turned = s.turned.noted metrics l.name m.turnedAway := by
    rw [hwatching]
    exact tellObservers_watchers _ _ _
  refine ⟨m, s.turned.noted metrics l.name m.turnedAway, hturn, ?_, ?_,
    fun f => m.status_turnedAway, rfl⟩
  · show resume c.handlers l (Visit.first l r s) s = _
    rw [resume_of_selected hselect, attemptAt_of_shut l hentries' hshut']
    exact congrArg (Prod.mk _) htold
  · intro e
    have htry := tryAt_of_shut (c := c) l e hentries' hshut' ((Visit.first l r s).toNext m) m
      s.observers.entries
    have hattempted : Attempted c.handlers l e (Visit.first l r s) s m m.turnedAway
        (r.record m.turnedAway.summary) (s.turned.noted metrics l.name m.turnedAway) :=
      ⟨s.turned, hselect, htry.trans (congrArg (fun s => Except.ok (_, _, s)) htold)⟩
    exact hattempted.travel_last (m.shouldRetry_turnedAway _ _ _ _)

end

/-! ## Locations from settings -/

namespace Builtin

variable {β ξ ζ τ : Type}

/-- Which handlers a site has, and in which order. -/
def chains (s : Workplace β ξ ζ τ) : List (String × Middleware ξ) × List (String × Observer ζ) :=
  (s.middlewares.entries, s.observers.entries)

/-- Nothing that is done for a request changes the chains. -/
def Custom.Keep.chains [Balancer β] {c : Custom β ξ ζ τ} (hc : c.Keep chains) :
    Account c.handlers (List (String × Middleware ξ) × List (String × Observer ζ)) :=
  (hc.handlers fun _ _ => rfl).still (fun _ => rfl) (fun _ _ => rfl) (fun _ _ => rfl)
    (fun _ _ _ => rfl)

/-- Whatever requests come, the chains stay as they are, unless they are changed from outside. -/
theorem chains_run [Balancer β] {c : Custom β ξ ζ τ} (hc : c.Keep chains) (l : Location)
    (s : Workplace β ξ ζ τ)
    {events : List (Traffic.Event β (Middleware ξ) (Observer ζ) (Store τ))}
    (hevents : ∀ f, .change f ∈ events → ∀ s, chains (f s) = chains s) :
    chains ((Traffic.start s).run c.handlers l events).site = chains s := by
  have hstill : hc.chains.Still := Handlers.Keep.still_still _
  have hrun := hc.chains.view_run l s hevents
  rw [hstill.balance] at hrun
  exact hrun

end Builtin

namespace LocationSettings

variable {ξ ζ τ : Type} {s : LocationSettings} {metrics : Bool} {x : BreakerSettings} {slot : Nat}

/-- The breaker stands before the limiter. -/
theorem guards_of_breaker {t : Store τ} {name : String}
    (hslot : (name, .breaker x slot) ∈ (s.guards t : List (String × Middleware ξ))) :
    ∃ name rest, (s.guards t : List (String × Middleware ξ)) = (name, .breaker x slot) :: rest := by
  obtain ⟨hbreaker, rfl⟩ := breaker_mem_guards hslot
  unfold guards
  rw [hbreaker]
  exact ⟨_, _, rfl⟩

/-- In a location that was built from settings with a breaker, a request that comes while the
breaker is shut is turned away, whatever traffic has been there before. -/
theorem shielded_of_build {t t' : Store τ} {b : Branch Rotation ξ ζ}
    (hbuild : s.build metrics t = .ok (b, t')) {name : String}
    (hslot : (name, .breaker x slot) ∈ b.middlewares.entries) {c : Custom Rotation ξ ζ τ}
    (hc : c.Keep chains) (now : Nat) (draws : Draws)
    {events : List (Traffic.Event Rotation (Middleware ξ) (Observer ζ) (Store τ))}
    (hevents : ∀ f, .change f ∈ events → ∀ s, chains (f s) = chains s)
    {T : Traffic Rotation (Middleware ξ) (Observer ζ) (Store τ)}
    (hT : T = (Traffic.start (b.site now draws t')).run c.handlers b.location events)
    (hshut : (T.site.shared.breaker slot).Shut x T.site.now) (hpool : T.site.pool.members ≠ [])
    (r : Request) : ∃ m s', TurnsAway c b.location metrics T.site r m s' := by
  obtain ⟨-, hb, -⟩ := eq_of_build hbuild
  have hchains : chains T.site = chains (b.site now draws t') :=
    hT ▸ chains_run hc b.location _ hevents
  have hguards : T.site.middlewares.entries = s.guards t := by
    refine (congrArg Prod.fst hchains).trans ?_
    rw [hb]
    rfl
  have hwatching : T.site.observers.entries = watchers metrics b.location.name := by
    refine (congrArg Prod.snd hchains).trans ?_
    rw [hb]
    rfl
  have hentries : b.middlewares.entries = s.guards t := by rw [hb]; rfl
  obtain ⟨name, rest, hfirst⟩ := guards_of_breaker (hentries ▸ hslot)
  exact turnsAway_of_shut (hguards.trans hfirst) hwatching hshut hpool r

end LocationSettings

namespace Twins

/-- A location whose breaker opens at the first failure. -/
def touchy : LocationSettings := { settings with breaker := some { failureThreshold := 1 } }

def touchyBranch : Branch Rotation Empty Empty := touchy.branch true { extra := () }

/-- The first server fails, and a second passes. -/
def outage : List (Traffic.Event Rotation (Middleware Empty) (Observer Empty) (Store Unit)) :=
  [.arrive request, .answer 0 (.ok ⟨.internalServerError, ⟨[]⟩, {}⟩),
    .change fun s => { s with now := s.now + Duration.second }]

def touchyTraffic : Traffic Rotation (Middleware Empty) (Observer Empty) (Store Unit) :=
  (Traffic.start (touchyBranch.site 0 ⟨[]⟩ (touchy.stock { extra := () }))).run
    Custom.none.handlers touchyBranch.location outage

end Twins

theorem LocationSettings.shielded_of_build_touchy :
    ((Twins.touchy.build true { extra := () } : Except Error (Branch Rotation Empty Empty × _)) =
        .ok (Twins.touchyBranch, Twins.touchy.stock { extra := () }) ∧
      ("circuit_breaker", .breaker { failureThreshold := 1 } 0) ∈
        Twins.touchyBranch.middlewares.entries ∧
      (∀ f, .change f ∈ Twins.outage → ∀ s, chains (f s) = chains s) ∧
      (Twins.touchyTraffic.site.shared.breaker 0).Shut { failureThreshold := 1 }
        Twins.touchyTraffic.site.now ∧
      Twins.touchyTraffic.site.pool.members ≠ []) ∧
    ∃ m s', TurnsAway Custom.none Twins.touchyBranch.location true Twins.touchyTraffic.site
      Twins.request m s' := by
  have hbuild : (Twins.touchy.build true { extra := () } :
      Except Error (Branch Rotation Empty Empty × Store Unit)) =
        .ok (Twins.touchyBranch, Twins.touchy.stock { extra := () }) :=
    build_of_nodup (by decide +kernel) (by decide +kernel) true _
  have hslot : ("circuit_breaker", .breaker { failureThreshold := 1 } 0) ∈
      Twins.touchyBranch.middlewares.entries := List.mem_cons_self
  have hevents : ∀ f, .change f ∈ Twins.outage → ∀ s, chains (f s) = chains s := by
    intro f hf s
    have htime : f = fun s => { s with now := s.now + Duration.second } := by
      simpa [Twins.outage] using hf
    rw [htime]
    rfl
  have hshut : (Twins.touchyTraffic.site.shared.breaker 0).Shut { failureThreshold := 1 }
      Twins.touchyTraffic.site.now :=
    ⟨by decide +kernel, 0, by decide +kernel, by decide +kernel⟩
  have hpool : Twins.touchyTraffic.site.pool.members ≠ [] := by decide +kernel
  refine ⟨⟨hbuild, hslot, hevents, hshut, hpool⟩, ?_⟩
  exact shielded_of_build hbuild hslot (Custom.none_keep _) 0 ⟨[]⟩ hevents rfl hshut hpool _

end Gateway
