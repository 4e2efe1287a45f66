import Gateway.Proofs.Location.Retry
import Mathlib.Data.List.Nodup
import Mathlib.Data.List.Perm.Subperm

/-!
# Failover

A request goes from endpoint to endpoint of its pool until one gives an acceptable
response. Other requests may turn the pool in the meantime, so that it offers the same
endpoints again and again; the request still tries none of them twice, and leaves out
none unless it is answered before.
-/

namespace Gateway

variable {β μ ο σ : Type}

/-- A response that is passed on to the client. -/
def FailoverPolicy.Acceptable (p : FailoverPolicy) (o : Outcome) : Prop :=
  ∃ response, o = .ok response ∧ response.status.code ∉ p.retryableStatuses

theorem FailoverPolicy.Acceptable.not_worthAnother {p : FailoverPolicy} {m : Method} {o : Outcome}
    (hacceptable : p.Acceptable o) : ¬ p.WorthAnother m o := by
  obtain ⟨response, rfl, hstatus⟩ := hacceptable
  exact hstatus

/-! ## An attempt at each endpoint -/

/-- Every attempt of a journey is at an endpoint of its own and has the outcome of it. -/
structure Sweeps (ms : List Member) (outcome : Member → Outcome) (v : Visit)
    (j : Journey β μ ο σ) : Prop where
  placed : ∀ err, j.ending ≠ .unplaced err
  distinct : (j.legs.map (·.attempt.endpoint.id) ++ v.tried).Nodup
  assigned : ∀ leg ∈ j.legs, ∃ m ∈ ms, leg.attempt.endpoint = m.endpoint ∧
    leg.attempt.outcome = outcome m ∧ leg.attempt.intercepted = false

section

variable {ms : List Member} {outcome : Member → Outcome}

theorem Sweeps.rounds_eq {v : Visit} {j : Journey β μ ο σ} (hj : Sweeps ms outcome v j) :
    j.rounds = j.legs.length := by
  unfold Journey.rounds
  cases hending : j.ending with
  | answered o => rfl
  | unplaced err => exact absurd hending (hj.placed err)
  | broken => rfl

/-- As many attempts as there are endpoints are one at each of them. -/
theorem Sweeps.perm {v : Visit} {j : Journey β μ ο σ} (hj : Sweeps ms outcome v j)
    (hle : ms.length ≤ j.legs.length) :
    (j.legs.map (·.attempt.endpoint)).Perm (ms.map Member.endpoint) := by
  have hids : ((j.legs.map (·.attempt.endpoint)).map Endpoint.id).Nodup := by
    rw [List.map_map]
    exact hj.distinct.of_append_left
  have hsubset : j.legs.map (·.attempt.endpoint) ⊆ ms.map Member.endpoint := by
    intro endpoint hendpoint
    obtain ⟨leg, hleg, rfl⟩ := List.mem_map.mp hendpoint
    obtain ⟨m, hm, heq, -⟩ := hj.assigned leg hleg
    exact List.mem_map.mpr ⟨m, hm, heq.symm⟩
  refine (hids.of_map.subperm hsubset).perm_of_length_le ?_
  rwa [List.length_map, List.length_map]

end

/-! ## A pool that stays the same -/

variable [Balancer β]

/-- While a request is on its way, nothing comes between it and the backends, its pool has
the same endpoints all the time and offers any of them, and each endpoint has an outcome
that is acceptable or worth another attempt. -/
structure Assigned (h : Handlers β μ ο σ) (l : Location) (e : Surroundings β μ ο σ) (r : Request)
    (ms : List Member) (outcome : Member → Outcome) : Prop where
  lawful : h.Lawful
  passes : ∀ m r s, (h.onRequest m r s).1 = .pass
  distinct : (ms.map Member.id).Nodup
  offers : ∀ p : β, Balancer.members p = ms → ∃ m ∈ ms, (Balancer.next p).1 = .ok m
  next_members : ∀ p : β, Balancer.members p = ms → Balancer.members (Balancer.next p).2 = ms
  onRequest_members : ∀ m r s, Balancer.members s.pool = ms →
    Balancer.members (h.onRequest m r s).2.2.pool = ms
  onResponse_members : ∀ m r a s, Balancer.members s.pool = ms →
    Balancer.members (h.onResponse m r a s).2.pool = ms
  seeRequest_members : ∀ o r s, Balancer.members s.pool = ms →
    Balancer.members (h.seeRequest o r s).pool = ms
  seeResponse_members : ∀ o r a s, Balancer.members s.pool = ms →
    Balancer.members (h.seeResponse o r a s).pool = ms
  answer_members : ∀ t out s, Balancer.members s.pool = ms →
    Balancer.members (e.answer t out s).2.pool = ms
  rested_members : ∀ v nanos s, Balancer.members s.pool = ms →
    Balancer.members (e.rested v nanos s).pool = ms
  /-- The target of the request makes a URI at every endpoint. -/
  sendable : ∀ m ∈ ms, ∀ q : Request, q.uri = r.uri →
    ∃ out, Outbound.ofRequest q m.endpoint l.trustForwarded = .ok out
  answers : ∀ t out s, t.member ∈ ms → (e.answer t out s).1 = outcome t.member
  acceptable_or : ∀ m ∈ ms,
    l.failover.Acceptable (outcome m) ∨ l.failover.WorthAnother r.method (outcome m)

/-! ## Picking an endpoint -/

/-- A pool with endpoints that were not tried. -/
theorem exists_untried {ms : List Member} {tried : List String} (hnodup : (ms.map Member.id).Nodup)
    (hlt : tried.length < ms.length) : ∃ u ∈ ms, u.id ∉ tried := by
  by_contra hall
  -- Distinct ids that were all tried would be more than there are.
  have hsubset : ms.map Member.id ⊆ tried := by
    intro id hid
    obtain ⟨u, hu, rfl⟩ := List.mem_map.mp hid
    by_contra hnot
    exact hall ⟨u, hu, hnot⟩
  have hle := (hnodup.subperm hsubset).length_le
  rw [List.length_map] at hle
  omega

section

variable {h : Handlers β μ ο σ} {l : Location} {e : Surroundings β μ ο σ} {r : Request}
  {ms : List Member} {outcome : Member → Outcome}

theorem Assigned.pick (ha : Assigned h l e r ms outcome) {s : Site β μ ο σ}
    (hs : Balancer.members s.pool = ms) :
    ∃ m ∈ ms, ∃ s', s.pick = (.ok m, s') ∧ Balancer.members s'.pool = ms := by
  obtain ⟨m, hm, hnext⟩ := ha.offers s.pool hs
  refine ⟨m, hm, { s with pool := (Balancer.next s.pool).2 }, ?_, ha.next_members s.pool hs⟩
  unfold Site.pick
  rw [← hnext]

theorem Assigned.askAgain (ha : Assigned h l e r ms outcome) (tried : List String) (n : Nat)
    {m : Member} (hm : m ∈ ms) {s : Site β μ ο σ} (hs : Balancer.members s.pool = ms) :
    ∃ u ∈ ms, ∃ s', Gateway.askAgain tried n m s = (.ok u, s') ∧
      Balancer.members s'.pool = ms := by
  induction n generalizing m s with
  | zero => exact ⟨m, hm, s, rfl, hs⟩
  | succ n ih =>
      unfold Gateway.askAgain
      by_cases htried : tried.contains m.id = true
      · obtain ⟨u, hu, s', hpick, hs'⟩ := ha.pick hs
        rw [if_pos htried, hpick]
        exact ih hu hs'
      · rw [if_neg htried]
        exact ⟨m, hm, s, rfl, hs⟩

/-- Whatever the pool offers, the endpoint picked was not tried if there is such a one. -/
theorem Assigned.selectEndpoint (ha : Assigned h l e r ms outcome) {tried : List String}
    (htried : tried.length < ms.length) {s : Site β μ ο σ} (hs : Balancer.members s.pool = ms) :
    ∃ m ∈ ms, m.id ∉ tried ∧ ∃ s', Gateway.selectEndpoint tried s = (.ok m, s') ∧
      Balancer.members s'.pool = ms := by
  obtain ⟨m, hm, s₁, hpick, hs₁⟩ := ha.pick hs
  unfold Gateway.selectEndpoint
  rw [hpick]
  by_cases hempty : tried.isEmpty = true
  · rw [List.isEmpty_iff] at hempty
    subst hempty
    exact ⟨m, hm, List.not_mem_nil, s₁, rfl, hs₁⟩
  obtain ⟨u, hu, s₂, hask, hs₂⟩ := ha.askAgain tried ms.length hm hs₁
  simp only [if_neg hempty, hs₁, hask]
  by_cases hagain : tried.contains u.id = true
  · rw [if_pos hagain]
    -- The pool has offered nothing new, and its list is searched instead.
    cases hfind : ms.find? fun w => !tried.contains w.id with
    | none =>
        obtain ⟨w, hw, hnot⟩ := exists_untried ha.distinct htried
        have := List.find?_eq_none.mp hfind w hw
        simp [hnot] at this
    | some w =>
        have hnot := List.find?_some hfind
        exact ⟨w, List.mem_of_find?_eq_some hfind, by simpa using hnot, s₂, rfl, hs₂⟩
  · rw [if_neg hagain]
    exact ⟨u, hu, by simpa using hagain, s₂, rfl, hs₂⟩

/-! ## Attempts -/

theorem Assigned.runMiddlewares (ha : Assigned h l e r ms outcome) (xs : List (String × μ))
    (q : Request) {s : Site β μ ο σ} (hs : Balancer.members s.pool = ms) :
    ∃ q' s', Gateway.runMiddlewares h xs q s = (xs, .pass, q', s') ∧
      Balancer.members s'.pool = ms := by
  induction xs generalizing q s with
  | nil => exact ⟨q, s, rfl, hs⟩
  | cons x xs ih =>
      have hpass := ha.passes x q s
      have hmembers := ha.onRequest_members x q s hs
      unfold Gateway.runMiddlewares
      rcases hcall : h.onRequest x q s with ⟨verdict, q₁, s₁⟩
      rw [hcall] at hpass hmembers
      obtain rfl : verdict = .pass := hpass
      obtain ⟨q', s', hrun, hs'⟩ := ih q₁ (s := s₁) hmembers
      simp only [hrun]
      exact ⟨q', s', rfl, hs'⟩

theorem Assigned.settle_members (ha : Assigned h l e r ms outcome) (t : Trial μ ο) (o : Outcome)
    (intercepted : Bool) {s : Site β μ ο σ} (hs : Balancer.members s.pool = ms) :
    Balancer.members (settle h t o intercepted s).2.2.pool = ms :=
  settle_site (P := fun s => Balancer.members s.pool = ms) ha.onResponse_members
    ha.seeResponse_members t o intercepted hs

/-- The outcome of an attempt is that of its endpoint. -/
theorem Assigned.tryAt (ha : Assigned h l e r ms outcome) {v : Visit} (hv : v.request.uri = r.uri)
    {m : Member} (hm : m ∈ ms) (watching : List (String × ο)) {s : Site β μ ο σ}
    (hs : Balancer.members s.pool = ms) {a : Attempt} {q : Request} {s' : Site β μ ο σ}
    (htry : Gateway.tryAt h l e v m watching s = .ok (a, q, s')) :
    a.outcome = outcome m ∧ a.intercepted = false ∧ Balancer.members s'.pool = ms := by
  obtain ⟨q₁, s₁, hrun, hs₁⟩ := ha.runMiddlewares s.middlewares.entries v.request hs
  have halike := runMiddlewares_alike ha.lawful s.middlewares.entries v.request s
  rw [hrun] at halike
  obtain ⟨out, hout⟩ := ha.sendable m hm q₁ (halike.uri.trans hv)
  obtain ⟨t, ht⟩ : ∃ t : Trial μ ο,
      t = ⟨{ v with request := q₁ }, m, s.now, s.middlewares.entries, watching⟩ := ⟨_, rfl⟩
  rw [tryAt_of_pass e hrun hout ht] at htry
  have hmember : t.member = m := by rw [ht]
  have hsent := Except.ok.inj htry
  have houtcome := ha.answers t out (s₁.startAttempt m) (hmember ▸ hm)
  have hreplied := ha.answer_members t out (s₁.startAttempt m) hs₁
  generalize e.answer t out (s₁.startAttempt m) = reply at hsent houtcome hreplied
  have hsettled := ha.settle_members t reply.1 false
    (s := reply.2.finishAttempt m reply.1.isSuccess) hreplied
  rw [hsent] at hsettled
  obtain rfl : (settle h t reply.1 false (reply.2.finishAttempt m reply.1.isSuccess)).1 = a :=
    congrArg Prod.fst hsent
  rw [← hmember]
  exact ⟨houtcome, rfl, hsettled⟩

/-! ## Journeys -/

/-- What a journey has not done yet: it has tried some of the endpoints, and may try as
many as there are. -/
structure Underway (r : Request) (ms : List Member) (v : Visit) : Prop where
  uri : v.request.uri = r.uri
  distinct : v.tried.Nodup
  counted : v.tried.length = v.made
  within : v.made < ms.length
  budget : v.budget = ms.length

theorem Assigned.announce_members (ha : Assigned h l e r ms outcome) (q : Request)
    {s : Site β μ ο σ} (hs : Balancer.members s.pool = ms) :
    Balancer.members (announce h q s).pool = ms :=
  announce_site (P := fun s => Balancer.members s.pool = ms) ha.seeRequest_members q hs

/-- An attempt of a journey that is underway. -/
structure Fresh (ms : List Member) (outcome : Member → Outcome) (v : Visit) (m : Member)
    (a : Attempt) (q : Request) (s' : Site β μ ο σ) : Prop where
  member : m ∈ ms
  untried : m.id ∉ v.tried
  recorded : Recorded v.request m a q
  outcome : a.outcome = outcome m
  passed : a.intercepted = false
  members : Balancer.members s'.pool = ms

theorem Assigned.fresh (ha : Assigned h l e r ms outcome) {v : Visit} (hv : Underway r ms v)
    {s : Site β μ ο σ} (hs : Balancer.members s.pool = ms) {m : Member} {a : Attempt}
    {q : Request} {s' : Site β μ ο σ} (hattempted : Attempted h l e v s m a q s') :
    Fresh ms outcome v m a q s' := by
  have hrecorded := hattempted.recorded ha.lawful
  obtain ⟨s₁, hselect, htry⟩ := hattempted
  have hlt : v.tried.length < ms.length := by
    rw [hv.counted]
    exact hv.within
  obtain ⟨u, hu, huntried, s₂, hpick, hs₂⟩ :=
    ha.selectEndpoint hlt (ha.announce_members v.request hs)
  rw [hpick, Prod.mk.injEq, Except.ok.injEq] at hselect
  obtain ⟨rfl, rfl⟩ := hselect
  obtain ⟨houtcome, hpassed, hmembers⟩ :=
    ha.tryAt (v := v.toNext u) hv.uri hu s.observers.entries hs₂ htry
  exact ⟨hu, huntried, hrecorded, houtcome, hpassed, hmembers⟩

theorem Fresh.sweeps {v : Visit} {m : Member} {a : Attempt} {q : Request} {s' : Site β μ ο σ}
    (hf : Fresh ms outcome v m a q s') (hv : Underway r ms v) {j : Journey β μ ο σ}
    {draw : Float} (hlegs : j.legs = [⟨a, draw⟩]) (hplaced : ∀ err, j.ending ≠ .unplaced err) :
    Sweeps ms outcome v j where
  placed := hplaced
  distinct := by
    rw [hlegs]
    refine List.nodup_cons.mpr ⟨?_, hv.distinct⟩
    show a.endpoint.id ∉ v.tried
    rw [hf.recorded.endpoint]
    exact hf.untried
  assigned := by
    intro leg hleg
    rw [hlegs, List.mem_singleton] at hleg
    rw [hleg]
    exact ⟨m, hf.member, hf.recorded.endpoint, hf.outcome, hf.passed⟩

theorem Fresh.after {v v' : Visit} {m : Member} {a : Attempt} {q : Request} {s' : Site β μ ο σ}
    (hf : Fresh ms outcome v m a q s') {j : Journey β μ ο σ} {draw : Float}
    (htried : v'.tried = m.id :: v.tried) (hj : Sweeps ms outcome v' j) :
    Sweeps ms outcome v (j.after ⟨a, draw⟩) where
  placed := hj.placed
  distinct := by
    have hdistinct := hj.distinct
    rw [htried] at hdistinct
    show (a.endpoint.id :: j.legs.map _ ++ v.tried).Nodup
    rw [hf.recorded.endpoint]
    exact (List.nodup_middle.mp hdistinct)
  assigned := by
    intro leg hleg
    rcases List.mem_cons.mp hleg with rfl | hleg
    · exact ⟨m, hf.member, hf.recorded.endpoint, hf.outcome, hf.passed⟩
    · exact hj.assigned leg hleg

/-- Whatever the pool offers, no endpoint is tried twice. -/
theorem Assigned.sweeps (ha : Assigned h l e r ms outcome) {v : Visit} (hv : Underway r ms v)
    {s : Site β μ ο σ} (hs : Balancer.members s.pool = ms) :
    Sweeps ms outcome v (travel h l e v s) := by
  -- What is carried along: as many endpoints were tried as attempts were made.
  refine travel_induction (P := fun v s j => Underway r ms v → Balancer.members s.pool = ms →
    Sweeps ms outcome v j) ?_ ?_ ?_ ?_ ?_ v s hv hs
  · intro v s err s' hselect hv hs
    have hlt : v.tried.length < ms.length := by
      rw [hv.counted]
      exact hv.within
    obtain ⟨m, -, -, s₂, hpick, -⟩ := ha.selectEndpoint hlt (ha.announce_members v.request hs)
    rw [hpick] at hselect
    cases hselect
  · intro v s m s₁ s' _ htry
    exact absurd htry (tryAt_ne_error ha.lawful.onRequest_verdict)
  · intro v s m a q s' hattempted _ hv hs
    exact (ha.fresh hv hs hattempted).sweeps hv rfl (fun _ => Ending.noConfusion)
  · intro v s m a q s' hattempted _ _ hv hs
    exact (ha.fresh hv hs hattempted).sweeps hv rfl (fun _ => Ending.noConfusion)
  · rintro v s m a q s' nanos v' s'' hattempted hretry - rfl rfl hsweeps hv hs
    have hfresh := ha.fresh hv hs hattempted
    have hlt := FailoverPolicy.lt_of_shouldRetry hretry
    have hv' : Underway r ms { v.toNext m with request := q } := {
      uri := hfresh.recorded.uri.trans hv.uri
      distinct := List.nodup_cons.mpr ⟨hfresh.untried, hv.distinct⟩
      counted := congrArg Nat.succ hv.counted
      within := hv.budget ▸ hlt
      budget := hv.budget }
    exact hfresh.after rfl (hsweeps hv' (ha.rested_members _ _ _ hfresh.members))

/-- What becomes of a request when every endpoint has one outcome for it. -/
structure Journey.Complete (j : Journey β μ ο σ) (p : FailoverPolicy) (ms : List Member)
    (outcome : Member → Outcome) : Prop where
  /-- No endpoint is tried twice. -/
  distinct : (j.legs.map (·.attempt.endpoint.id)).Nodup
  assigned : ∀ leg ∈ j.legs, ∃ m ∈ ms, leg.attempt.endpoint = m.endpoint ∧
    leg.attempt.outcome = outcome m
  /-- If an endpoint has an acceptable response, such a response is the answer. -/
  accepted : (∃ m ∈ ms, p.Acceptable (outcome m)) → j.ending ≠ .broken →
    ∃ m ∈ ms, p.Acceptable (outcome m) ∧ j.ending = .answered (outcome m) ∧
      ∃ leg, j.legs.getLast? = some leg ∧ leg.attempt.endpoint = m.endpoint
  /-- If none has, all are tried once, and the failure of the last one is the answer. -/
  exhausted : (∀ m ∈ ms, ¬ p.Acceptable (outcome m)) → j.ending ≠ .broken →
    (j.legs.map (·.attempt.endpoint)).Perm (ms.map Member.endpoint) ∧
      ∃ leg, j.legs.getLast? = some leg ∧ j.ending = .answered leg.attempt.outcome
  /-- The journey breaks off exactly if the rest behind an attempt that has failed, while
  there are more endpoints, overflows. -/
  breaks_iff : j.ending = .broken ↔ ∃ leg, j.legs.getLast? = some leg ∧
    j.legs.length < ms.length ∧ ¬ p.Acceptable leg.attempt.outcome ∧
    p.Overflows leg.draw j.legs.length

theorem Sweeps.wanted_iff (ha : Assigned h l e r ms outcome) {v : Visit} {j : Journey β μ ο σ}
    (hj : Sweeps ms outcome v j) {leg : Leg} (hleg : leg ∈ j.legs) (no : Nat) :
    l.failover.Wanted r.method ms.length no leg.attempt ↔
      no < ms.length ∧ ¬ l.failover.Acceptable leg.attempt.outcome := by
  obtain ⟨m, hm, -, houtcome, hpassed⟩ := hj.assigned leg hleg
  constructor
  · intro hwanted
    refine ⟨hwanted.within, ?_⟩
    intro hacceptable
    exact hacceptable.not_worthAnother hwanted.failed
  · rintro ⟨hlt, hnot⟩
    rw [houtcome] at hnot
    refine ⟨hlt, hpassed, ?_⟩
    rw [houtcome]
    exact (ha.acceptable_or m hm).resolve_left hnot

/-- The last attempt is acceptable, or there is no endpoint left for another one. -/
theorem Sweeps.last (ha : Assigned h l e r ms outcome) {v : Visit} {j : Journey β μ ο σ}
    (hj : Sweeps ms outcome v j)
    (hall : ∀ i leg, j.legs[i]? = some leg →
      (i + 1 < j.rounds ↔ l.failover.Wanted r.method ms.length (i + 1) leg.attempt))
    {leg : Leg} (hlast : j.legs.getLast? = some leg) :
    l.failover.Acceptable leg.attempt.outcome ∨ ms.length ≤ j.legs.length := by
  by_contra hneither
  rw [not_or, Nat.not_le] at hneither
  obtain ⟨i, hlength, hleg⟩ := exists_getElem?_of_getLast? hlast
  have hwanted := (hj.wanted_iff ha (List.mem_of_getLast? hlast) j.legs.length).mpr
    ⟨hneither.2, hneither.1⟩
  have hmore := (hall i leg hleg).mpr (by rwa [hlength])
  rw [hj.rounds_eq] at hmore
  omega

/-- An acceptable attempt is the last. -/
theorem Sweeps.last_of_acceptable (ha : Assigned h l e r ms outcome) {v : Visit}
    {j : Journey β μ ο σ} (hj : Sweeps ms outcome v j)
    (hall : ∀ i leg, j.legs[i]? = some leg →
      (i + 1 < j.rounds ↔ l.failover.Wanted r.method ms.length (i + 1) leg.attempt))
    {leg : Leg} (hleg : leg ∈ j.legs) (hacceptable : l.failover.Acceptable leg.attempt.outcome) :
    j.legs.getLast? = some leg := by
  obtain ⟨i, hi⟩ := List.mem_iff_getElem?.mp hleg
  have hnot : ¬ i + 1 < j.rounds := by
    rw [hall i leg hi, hj.wanted_iff ha hleg]
    rintro ⟨-, hnot⟩
    exact hnot hacceptable
  have hlt := (List.getElem?_eq_some_iff.mp hi).1
  rw [hj.rounds_eq] at hnot
  exact getLast?_of_getElem? hi (by omega)

theorem Assigned.eq_of_endpoint (ha : Assigned h l e r ms outcome) {m m' : Member} (hm : m ∈ ms)
    (hm' : m' ∈ ms) (heq : m.endpoint = m'.endpoint) : m = m' := by
  exact List.inj_on_of_nodup_map ha.distinct hm hm' (congrArg Endpoint.id heq)

/-- A journey that does not break off ends with the outcome of its last attempt. -/
theorem Sweeps.exists_last {v : Visit} {j : Journey β μ ο σ} (hj : Sweeps ms outcome v j)
    (hregular : j.Regular l.failover v) (hbroken : j.ending ≠ .broken) :
    ∃ leg, j.legs.getLast? = some leg ∧ j.ending = .answered leg.attempt.outcome := by
  cases hending : j.ending with
  | unplaced err => exact absurd hending (hj.placed err)
  | broken => exact absurd hending hbroken
  | answered o =>
      obtain ⟨leg, hlast, rfl⟩ := hregular.answered o hending
      exact ⟨leg, hlast, rfl⟩

theorem Sweeps.complete (ha : Assigned h l e r ms outcome) {v : Visit} {j : Journey β μ ο σ}
    (hj : Sweeps ms outcome v j) (hregular : j.Regular l.failover v) (hmade : v.made = 0)
    (hbudget : v.budget = ms.length) (hmethod : v.request.method = r.method) :
    j.Complete l.failover ms outcome where
  distinct := hj.distinct.of_append_left
  assigned := by
    intro leg hleg
    obtain ⟨m, hm, hendpoint, houtcome, -⟩ := hj.assigned leg hleg
    exact ⟨m, hm, hendpoint, houtcome⟩
  accepted := by
    rintro ⟨u, hu, hacceptable⟩ hbroken
    have hall := hregular.follows_exactly_iff.mpr hbroken
    simp only [hmethod, hbudget, hmade, Nat.zero_add] at hall
    obtain ⟨leg, hlast, hending⟩ := hj.exists_last hregular hbroken
    obtain ⟨m, hm, hendpoint, houtcome, -⟩ := hj.assigned leg (List.mem_of_getLast? hlast)
    have hgood : l.failover.Acceptable leg.attempt.outcome := by
      refine (hj.last ha hall hlast).elim id ?_
      intro hle
      -- All endpoints were tried; the attempt at the one that accepts was the last.
      have hmem : u.endpoint ∈ j.legs.map (·.attempt.endpoint) :=
        (hj.perm hle).mem_iff.mpr (List.mem_map_of_mem hu)
      obtain ⟨leg', hleg', heq⟩ := List.mem_map.mp hmem
      obtain ⟨w, hw, hwendpoint, hwoutcome, -⟩ := hj.assigned leg' hleg'
      obtain rfl : w = u := ha.eq_of_endpoint hw hu (hwendpoint.symm.trans heq)
      rw [← hwoutcome] at hacceptable
      have hlast' := hj.last_of_acceptable ha hall hleg' hacceptable
      obtain rfl : leg = leg' := Option.some.inj (hlast.symm.trans hlast')
      exact hacceptable
    rw [houtcome] at hgood hending
    exact ⟨m, hm, hgood, hending, leg, hlast, hendpoint⟩
  exhausted := by
    intro hnone hbroken
    have hall := hregular.follows_exactly_iff.mpr hbroken
    simp only [hmethod, hbudget, hmade, Nat.zero_add] at hall
    obtain ⟨leg, hlast, hending⟩ := hj.exists_last hregular hbroken
    obtain ⟨m, hm, -, houtcome, -⟩ := hj.assigned leg (List.mem_of_getLast? hlast)
    have hbad : ¬ l.failover.Acceptable leg.attempt.outcome := by
      rw [houtcome]
      exact hnone m hm
    exact ⟨hj.perm ((hj.last ha hall hlast).resolve_left hbad), leg, hlast, hending⟩
  breaks_iff := by
    rw [hregular.broken_iff, hmethod, hbudget, hmade, Nat.zero_add]
    constructor
    · rintro ⟨leg, hlast, hwanted, hoverflows⟩
      obtain ⟨hlt, hnot⟩ := (hj.wanted_iff ha (List.mem_of_getLast? hlast) _).mp hwanted
      exact ⟨leg, hlast, hlt, hnot, hoverflows⟩
    · rintro ⟨leg, hlast, hlt, hnot, hoverflows⟩
      exact ⟨leg, hlast, (hj.wanted_iff ha (List.mem_of_getLast? hlast) _).mpr ⟨hlt, hnot⟩,
        hoverflows⟩

theorem FailoverPolicy.budget_eq {p : FailoverPolicy} (hmax : p.maxAttempts = none) {n : Nat}
    (hpos : 0 < n) (hn : n ≤ maxCount) : p.budget n = n := by
  unfold budget
  rw [hmax, Option.getD_none]
  omega

/-- A request finds an acceptable response if there is one, whoever turns the pool meanwhile. -/
theorem roundTrip_complete (ha : Assigned h l e r ms outcome) (hmax : l.failover.maxAttempts = none)
    (hpos : ms ≠ []) (hcount : ms.length ≤ FailoverPolicy.maxCount) {s : Site β μ ο σ}
    (hs : Balancer.members s.pool = ms) :
    Leads h l e (launch h l r s) ((roundTrip h l e r s).flight, (roundTrip h l e r s).site) ∧
      (roundTrip h l e r s).Complete l.failover ms outcome := by
  refine ⟨leads_roundTrip r s, ?_⟩
  have hbudget : (Visit.first l r s).budget = ms.length := by
    unfold Visit.first
    rw [hs]
    exact FailoverPolicy.budget_eq hmax (List.length_pos_iff.mpr hpos) hcount
  have hunderway : Underway r ms (Visit.first l r s) := {
    uri := rfl
    distinct := List.nodup_nil
    counted := rfl
    within := List.length_pos_iff.mpr hpos
    budget := hbudget }
  have hregular := travel_regular ha.lawful l e (l.failover.budget_pos _) s (v := Visit.first l r s)
  exact (ha.sweeps hunderway hs).complete ha hregular rfl hbudget rfl

end

theorem Outbound.ofRequest_isOk {q : Request} {endpoint : Endpoint} {uri : Uri}
    (huri : Uri.ofString (endpoint.id ++ target q) = .ok uri) (trust : Bool) :
    ∃ out, ofRequest q endpoint trust = .ok out := by
  unfold ofRequest
  rw [huri]
  exact ⟨_, rfl⟩

theorem Twins.sendable {m : Member} (hm : m ∈ members) {q : Request} (hq : q.uri = request.uri) :
    ∃ out, Outbound.ofRequest q m.endpoint false = .ok out := by
  have htarget : Outbound.target q = "/" := by
    unfold Outbound.target
    rw [hq]
    decide +kernel
  have huris : (members.all fun m => (Uri.ofString (m.endpoint.id ++ "/")).toBool) = true := by
    decide +kernel
  have huri := List.all_eq_true.mp huris m hm
  cases hparse : Uri.ofString (m.endpoint.id ++ "/") with
  | error f =>
      rw [hparse] at huri
      cases huri
  | ok uri =>
      rw [← htarget] at hparse
      exact Outbound.ofRequest_isOk hparse false

theorem Twins.assigned (p : FailoverPolicy) (hp : p.retryableStatuses = []) :
    Assigned Handlers.none (location p) (.quiet outcome) request members outcome
      (β := Offering) (σ := Unit) where
  lawful := Handlers.none_lawful
  passes m := nomatch m.2
  distinct := by decide +kernel
  offers := by
    intro (pool : Offering) (hpool : pool.members = members)
    obtain ⟨m, hm, hnext⟩ := Offering.next_eq (by rw [hpool]; exact List.cons_ne_nil _ _)
    exact ⟨m, hpool ▸ hm, congrArg Prod.fst hnext⟩
  next_members := by
    intro (pool : Offering) (hpool : pool.members = members)
    obtain ⟨m, -, hnext⟩ := Offering.next_eq (by rw [hpool]; exact List.cons_ne_nil _ _)
    show (Offering.next pool).2.members = members
    rw [hnext]
    exact hpool
  onRequest_members m := nomatch m.2
  onResponse_members m := nomatch m.2
  seeRequest_members o := nomatch o.2
  seeResponse_members o := nomatch o.2
  answer_members _ _ _ hs := hs
  rested_members _ _ _ hs := hs
  sendable m hm q hq := Twins.sendable hm hq
  answers _ _ _ _ := rfl
  acceptable_or := by
    intro m _
    unfold outcome
    by_cases hm : m.serial = 0
    · rw [if_pos hm]
      exact Or.inr trivial
    · rw [if_neg hm]
      refine Or.inl ⟨_, rfl, ?_⟩
      show _ ∉ p.retryableStatuses
      rw [hp]
      exact List.not_mem_nil

/-- A pool that offers the same endpoint again and again does not keep a request from the
other one. -/
theorem roundTrip_complete_twins :
    Assigned Handlers.none (Twins.location {}) (.quiet Twins.outcome) Twins.request Twins.members
      Twins.outcome (β := Offering) (σ := Unit) ∧
    (Twins.location {}).failover.maxAttempts = none ∧ Twins.members ≠ [] ∧
    Twins.members.length ≤ FailoverPolicy.maxCount ∧
    Balancer.members Twins.site.pool = Twins.members ∧
    (Twins.journey {}).Complete {} Twins.members Twins.outcome ∧
    (Twins.journey {}).ending.isBroken = false ∧ (Twins.journey {}).legs.length = 2 := by
  have hassigned := Twins.assigned {} rfl
  have hcount : Twins.members.length ≤ FailoverPolicy.maxCount := by decide
  refine ⟨hassigned, rfl, List.cons_ne_nil _ _, hcount, rfl, ?_, by decide +kernel, by decide +kernel⟩
  exact (roundTrip_complete hassigned rfl (List.cons_ne_nil _ _) hcount (s := Twins.site) rfl).2

/-- The rest before the attempt that would be accepted does not fit into 64 bits. -/
theorem acceptable_not_reached :
    Assigned Handlers.none (Twins.location Twins.longRests) (.quiet Twins.outcome) Twins.request
      Twins.members Twins.outcome (β := Offering) (σ := Unit) ∧
    (∃ m ∈ Twins.members, Twins.longRests.Acceptable (Twins.outcome m)) ∧
    (Twins.journey Twins.longRests).ending = .broken := by
  refine ⟨Twins.assigned Twins.longRests rfl, ?_, ?_⟩
  · exact ⟨_, List.mem_cons_of_mem _ List.mem_cons_self, _, rfl, List.not_mem_nil⟩
  · rw [← Ending.isBroken_iff]
    decide +kernel

end Gateway
