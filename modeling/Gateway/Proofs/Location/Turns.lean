import Gateway.Proofs.Location.Account
import Gateway.Proofs.Location.Retry
import Gateway.Proofs.Pool.Rotation

/-!
# The turns of a request

A request that is alone at a rotation goes from one endpoint to the next in their order,
and starts over behind the last. Once it has tried all of them, it asks the pool a whole
round and one more time before each attempt. That comes to the same as asking once: the
endpoint is the next in turn, and so is the one that a later request begins with.
-/

namespace Gateway

/-! ## The pool after some turns -/

namespace Rotation

/-- The endpoint whose turn comes behind `k` others. -/
def turn? (p : Rotation) (k : Nat) : Option Member :=
  p.members[(p.cursor + k) % p.members.length]?

/-- The pool when `k` endpoints have had their turns. -/
def turnedBy (p : Rotation) (k : Nat) : Rotation :=
  { p with cursor := (p.cursor + k) % p.members.length }

variable {p : Rotation}

theorem balancer_members (p : Rotation) : Balancer.members p = p.members := rfl

theorem turnedBy_members (p : Rotation) (k : Nat) : (p.turnedBy k).members = p.members := rfl

theorem turnedBy_turnedBy (p : Rotation) (k j : Nat) :
    (p.turnedBy k).turnedBy j = p.turnedBy (k + j) := by
  unfold turnedBy
  rw [Nat.mod_add_mod, Nat.add_assoc]

theorem turn?_turnedBy (p : Rotation) (k j : Nat) : (p.turnedBy k).turn? j = p.turn? (k + j) := by
  unfold turn? turnedBy
  rw [Nat.mod_add_mod, Nat.add_assoc]

theorem Sound.turnedBy_zero (hp : p.Sound) (hne : p.members ≠ []) : p.turnedBy 0 = p := by
  unfold turnedBy
  rw [Nat.add_zero, Nat.mod_eq_of_lt (hp.cursor_lt hne)]

theorem exists_turn? (hne : p.members ≠ []) (k : Nat) : ∃ m, p.turn? k = some m :=
  ⟨_, List.getElem?_eq_getElem (Nat.mod_lt _ (List.length_pos_iff.mpr hne))⟩

theorem mem_of_turn? {k : Nat} {m : Member} (h : p.turn? k = some m) : m ∈ p.members :=
  List.mem_of_getElem? h

/-- Everyone has a turn. -/
theorem exists_turn?_of_mem {m : Member} (hm : m ∈ p.members) : ∃ k, p.turn? k = some m := by
  obtain ⟨i, hi⟩ := List.mem_iff_getElem?.mp hm
  obtain ⟨hlt, -⟩ := List.getElem?_eq_some_iff.mp hi
  obtain ⟨d, hd⟩ : ∃ d, p.members.length = d + 1 := ⟨p.members.length - 1, by omega⟩
  refine ⟨i + d * p.cursor, ?_⟩
  have hindex : p.cursor + (i + d * p.cursor) = i + p.members.length * p.cursor := by
    rw [hd]
    ring
  unfold turn?
  rw [hindex, Nat.add_mul_mod_self_left, Nat.mod_eq_of_lt hlt, hi]

/-- Whoever has a turn has one in the first round. -/
theorem turn?_mod (p : Rotation) (k : Nat) : p.turn? (k % p.members.length) = p.turn? k := by
  unfold turn?
  rw [Nat.add_mod_mod]

theorem turn?_add_length (p : Rotation) (k : Nat) :
    p.turn? (k + p.members.length) = p.turn? k := by
  rw [← turn?_mod, Nat.add_mod_right, turn?_mod]

theorem turnedBy_add_length (p : Rotation) (k : Nat) :
    p.turnedBy (k + p.members.length) = p.turnedBy k := by
  unfold turnedBy
  rw [← Nat.add_assoc, Nat.add_mod_right]

/-- Nobody has two turns in one round. -/
theorem Sound.turn?_inj (hp : p.Sound) {i k : Nat} {m u : Member} (hik : i ≤ k)
    (hk : k < i + p.members.length) (hm : p.turn? i = some m) (hu : p.turn? k = some u)
    (hid : m.id = u.id) : i = k := by
  obtain rfl : m = u :=
    List.inj_on_of_nodup_map hp.distinct (mem_of_turn? hm) (mem_of_turn? hu) hid
  obtain ⟨hlt, -⟩ := List.getElem?_eq_some_iff.mp hm
  have hindex : (p.cursor + i) % p.members.length = (p.cursor + k) % p.members.length :=
    (List.getElem?_inj hlt hp.distinct.of_map).mp (hm.trans hu.symm)
  have hdvd : p.members.length ∣ k - i := by
    have hmod : p.cursor + i ≡ p.cursor + k [MOD p.members.length] := hindex
    rw [Nat.modEq_iff_dvd' (by omega)] at hmod
    rwa [Nat.add_sub_add_left] at hmod
  have hzero := Nat.eq_zero_of_dvd_of_lt hdvd (by omega)
  omega

/-- Each selection is the next turn. -/
theorem next_turnedBy {k : Nat} {m : Member} (hm : p.turn? k = some m) :
    (p.turnedBy k).next = (.ok m, p.turnedBy (k + 1)) := by
  unfold turn? at hm
  unfold next turnedBy
  simp only [Nat.mod_mod, hm, Nat.mod_add_mod, Nat.add_assoc]

/-- The queue after some turns. -/
theorem Sound.upcoming_turnedBy (hp : p.Sound) (hne : p.members ≠ []) (k : Nat) :
    (p.turnedBy k).upcoming = p.upcoming.rotate k := by
  have hlt : (p.turnedBy k).cursor ≤ p.members.length :=
    Nat.le_of_lt (Nat.mod_lt _ (List.length_pos_iff.mpr hne))
  unfold upcoming
  rw [turnedBy_members, ← List.rotate_eq_drop_append_take hlt,
    ← List.rotate_eq_drop_append_take hp.cursor_le, List.rotate_rotate]
  exact List.rotate_mod _ _

/-- What was tried are the endpoints of the first `k` turns. -/
def Tried (p : Rotation) (k : Nat) (tried : List String) : Prop :=
  ∀ id, id ∈ tried ↔ ∃ i < k, ∃ m, p.turn? i = some m ∧ m.id = id

variable {k : Nat} {tried : List String}

theorem tried_zero (p : Rotation) : p.Tried 0 [] := by
  intro id
  simp

theorem Tried.succ (ht : p.Tried k tried) {m : Member} (hm : p.turn? k = some m) :
    p.Tried (k + 1) (m.id :: tried) := by
  intro id
  rw [List.mem_cons, ht id]
  constructor
  · rintro (rfl | ⟨i, hi, u, hu, rfl⟩)
    · exact ⟨k, Nat.lt_succ_self k, m, hm, rfl⟩
    · exact ⟨i, Nat.lt_succ_of_lt hi, u, hu, rfl⟩
  · rintro ⟨i, hi, u, hu, rfl⟩
    rcases Nat.lt_succ_iff_lt_or_eq.mp hi with hi | rfl
    · exact Or.inr ⟨i, hi, u, hu, rfl⟩
    · obtain rfl : m = u := Option.some.inj (hm.symm.trans hu)
      exact Or.inl rfl

/-- In the first round, the next endpoint was not tried. -/
theorem Tried.not_mem (ht : p.Tried k tried) (hp : p.Sound) (hk : k < p.members.length)
    {m : Member} (hm : p.turn? k = some m) : m.id ∉ tried := by
  intro hmem
  obtain ⟨i, hi, u, hu, hid⟩ := (ht m.id).mp hmem
  have := hp.turn?_inj (Nat.le_of_lt hi) (by omega) hu hm hid
  omega

/-- Behind the first round, all endpoints were tried. -/
theorem Tried.mem (ht : p.Tried k tried) (hk : p.members.length ≤ k) {m : Member}
    (hm : m ∈ p.members) : m.id ∈ tried := by
  obtain ⟨i, hi⟩ := exists_turn?_of_mem hm
  have hlt := Nat.mod_lt i (List.length_pos_of_mem hm)
  rw [← turn?_mod] at hi
  exact (ht m.id).mpr ⟨i % p.members.length, by omega, m, hi, rfl⟩

end Rotation

/-! ## The choice of an endpoint -/

section

variable {μ ο σ : Type} {p : Rotation} {k : Nat} {tried : List String} {m : Member}
  {s : Site Rotation μ ο σ}

theorem pick_turnedBy (hs : s.pool = p.turnedBy k) (hm : p.turn? k = some m) :
    s.pick = (.ok m, { s with pool := p.turnedBy (k + 1) }) := by
  have hnext : Balancer.next s.pool = (.ok m, p.turnedBy (k + 1)) := by
    rw [hs]
    exact Rotation.next_turnedBy hm
  unfold Site.pick
  rw [hnext]

/-- When all endpoints were tried, each further question is one more turn. -/
theorem askAgain_turnedBy (hne : p.members ≠ []) (hall : ∀ u ∈ p.members, u.id ∈ tried)
    (hm : p.turn? k = some m) (hs : s.pool = p.turnedBy (k + 1)) (n : Nat) :
    ∃ u, p.turn? (k + n) = some u ∧
      askAgain tried n m s = (.ok u, { s with pool := p.turnedBy (k + n + 1) }) := by
  induction n generalizing k m s with
  | zero => exact ⟨m, hm, by rw [Nat.add_zero, ← hs]; rfl⟩
  | succ n ih =>
      have htried : tried.contains m.id = true :=
        List.contains_iff_mem.mpr (hall m (Rotation.mem_of_turn? hm))
      obtain ⟨u, hu⟩ := Rotation.exists_turn? hne (k + 1)
      obtain ⟨w, hw, hask⟩ := ih (s := { s with pool := p.turnedBy (k + 1 + 1) }) hu rfl
      refine ⟨w, ?_, ?_⟩
      · rw [← hw, Nat.add_assoc, Nat.add_comm 1 n]
      · rw [askAgain, if_pos htried, pick_turnedBy hs hu]
        simp only [hask]
        rw [Nat.add_assoc k 1 n, Nat.add_comm 1 n]

/-- The endpoint of the next attempt is the next in turn, whatever was tried before. -/
theorem selectEndpoint_turnedBy (hp : p.Sound) (ht : p.Tried k tried) (hs : s.pool = p.turnedBy k)
    (hm : p.turn? k = some m) :
    selectEndpoint tried s = (.ok m, { s with pool := p.turnedBy (k + 1) }) := by
  have hne : p.members ≠ [] := List.ne_nil_of_mem (Rotation.mem_of_turn? hm)
  unfold selectEndpoint
  rw [pick_turnedBy hs hm]
  by_cases hempty : tried.isEmpty = true
  · simp only [if_pos hempty]
  simp only [if_neg hempty, Rotation.balancer_members, Rotation.turnedBy_members]
  by_cases hk : k < p.members.length
  · -- The first endpoint that the pool gives is a new one.
    have hnew : ¬ tried.contains m.id = true := by
      rw [List.contains_iff_mem]
      exact ht.not_mem hp hk hm
    have hask : ∀ n (s' : Site Rotation μ ο σ), askAgain tried n m s' = (.ok m, s') := by
      intro n s'
      cases n with
      | zero => rfl
      | succ n => rw [askAgain, if_neg hnew]
    simp only [hask, if_neg hnew]
  · -- A whole round comes back to the same endpoint, and nobody else is new.
    have hall : ∀ u ∈ p.members, u.id ∈ tried := fun u hu => ht.mem (Nat.le_of_not_lt hk) hu
    obtain ⟨u, hu, hask⟩ := askAgain_turnedBy (s := { s with pool := p.turnedBy (k + 1) }) hne hall
      hm rfl p.members.length
    rw [Rotation.turn?_add_length, hm] at hu
    obtain rfl : m = u := Option.some.inj hu
    have hnone : p.members.find? (fun u => !tried.contains u.id) = none := by
      rw [List.find?_eq_none]
      intro u hu
      simpa using hall u hu
    rw [Nat.add_right_comm, Rotation.turnedBy_add_length] at hask
    simp only [hask, hnone, Option.getD_none, ite_self]

end

/-! ## A request on its way -/

variable {μ ο σ : Type}

/-- A request is alone at its pool: neither handlers nor anyone else changes the pool while
the request is on its way. -/
structure Alone (h : Handlers Rotation μ ο σ) (e : Surroundings Rotation μ ο σ) : Prop where
  handlers : h.Keep Site.pool
  answer : ∀ t out s, (e.answer t out s).2.pool = s.pool
  rested : ∀ v nanos s, (e.rested v nanos s).pool = s.pool

/-- A flight at a point where it waits, as to the turns of a pool. -/
def Flight.InTurn (p : Rotation) : Flight μ ο × Site Rotation μ ο σ → Prop
  | (.sending t _, s) =>
      ∃ k, t.visit.made = k + 1 ∧ p.turn? k = some t.member ∧ p.Tried (k + 1) t.visit.tried ∧
        s.pool = p.turnedBy (k + 1)
  | (.resting v _, s) => p.Tried v.made v.tried ∧ s.pool = p.turnedBy v.made
  | (.finished _ _, _) => True
  | (.crashed, _) => True

/-- How the attempts of a journey are at the endpoints of a pool. -/
structure Journey.InTurn (j : Journey Rotation μ ο σ) (h : Handlers Rotation μ ο σ)
    (p : Rotation) : Prop where
  /-- There is an endpoint for every attempt. -/
  placed : ∀ err, j.ending ≠ .unplaced err
  /-- Each attempt is at the endpoint whose turn it is. -/
  turns : ∀ k leg, j.legs[k]? = some leg →
    ∃ m, p.members[(p.cursor + k) % p.members.length]? = some m ∧
      leg.attempt.endpoint = m.endpoint
  /-- The pool has moved on by one turn for each attempt, also for one that did not end
  because a middleware broke down, and is otherwise as before. -/
  moved : ∃ n, (n = j.legs.length ∨
      n = j.legs.length + 1 ∧ j.ending = .broken ∧ ∃ m r s, (h.onRequest m r s).1 = .crash) ∧
    j.site.pool = { p with cursor := (p.cursor + n) % p.members.length } ∧
    j.site.pool.upcoming = p.upcoming.rotate n

section

variable {h : Handlers Rotation μ ο σ} {l : Location} {e : Surroundings Rotation μ ο σ}
  {p q : Rotation} {v : Visit} {m : Member} {s : Site Rotation μ ο σ}

theorem Alone.announce (ha : Alone h e) (r : Request) (hs : s.pool = q) :
    (announce h r s).pool = q :=
  announce_site (P := fun s => s.pool = q) (fun o r s hs => (ha.handlers.seeRequest o r s).trans hs)
    r hs

theorem Alone.runMiddlewares (ha : Alone h e) (ms : List (String × μ)) (r : Request)
    (hs : s.pool = q) : (runMiddlewares h ms r s).2.2.2.pool = q :=
  runMiddlewares_site (P := fun s => s.pool = q)
    (fun m r s hs => (ha.handlers.onRequest m r s).trans hs) ms r hs

theorem Alone.settle (ha : Alone h e) (t : Trial μ ο) (o : Outcome) (intercepted : Bool)
    (hs : s.pool = q) : (settle h t o intercepted s).2.2.pool = q :=
  settle_site (P := fun s => s.pool = q)
    (fun m r a s hs => (ha.handlers.onResponse m r a s).trans hs)
    (fun o r a s hs => (ha.handlers.seeResponse o r a s).trans hs) t o intercepted hs

/-- An attempt begins with the next turn. -/
theorem Alone.select (ha : Alone h e) (hp : p.Sound) (hne : p.members ≠ [])
    (ht : p.Tried v.made v.tried) (hs : s.pool = p.turnedBy v.made) :
    ∃ m s₁, p.turn? v.made = some m ∧
      selectEndpoint v.tried (Gateway.announce h v.request s) = (.ok m, s₁) ∧
      s₁.pool = p.turnedBy (v.made + 1) := by
  obtain ⟨m, hm⟩ := Rotation.exists_turn? hne v.made
  exact ⟨m, _, hm, selectEndpoint_turnedBy hp ht (ha.announce v.request hs) hm, rfl⟩

/-! ## Flights -/

/-- The end of an attempt leaves the request behind it, and does not move the pool. -/
theorem Alone.conclude (ha : Alone h e) (t : Trial μ ο) (o : Outcome) (intercepted : Bool)
    (ht : p.Tried t.visit.made t.visit.tried) (hs : s.pool = p.turnedBy t.visit.made) :
    Flight.InTurn p (conclude h l t o intercepted s) := by
  have hsettled := ha.settle t o intercepted hs
  rw [conclude_eq]
  generalize Gateway.settle h t o intercepted s = settled at hsettled
  obtain ⟨a, r, s'⟩ := settled
  cases hretry : l.failover.shouldRetry r.method a t.visit.made t.visit.budget with
  | false =>
      rw [proceed_finished hretry]
      trivial
  | true =>
      rw [proceed_retry hretry]
      cases (l.failover.backoff s'.draws.take.1 t.visit.made).pause? with
      | none => trivial
      | some nanos => exact ⟨ht, hsettled⟩

theorem Alone.attemptAt (ha : Alone h e) {k : Nat} (hmade : v.made = k + 1)
    (hm : p.turn? k = some m) (ht : p.Tried (k + 1) v.tried) (watching : List (String × ο))
    (hs : s.pool = p.turnedBy (k + 1)) : Flight.InTurn p (attemptAt h l v m watching s) := by
  have hrun := ha.runMiddlewares s.middlewares.entries v.request hs
  unfold Gateway.attemptAt
  rcases hcall : Gateway.runMiddlewares h s.middlewares.entries v.request s with
    ⟨ran, verdict, r, s'⟩
  rw [hcall] at hrun
  have hends : ∀ o intercepted, Flight.InTurn p (Gateway.conclude h l
      ⟨{ v with request := r }, m, s.now, ran, watching⟩ o intercepted s') := by
    intro o intercepted
    rw [← hmade] at ht hrun
    exact ha.conclude _ o intercepted ht hrun
  cases verdict with
  | crash => trivial
  | respond response => exact hends _ _
  | reject rejection => exact hends _ _
  | pass =>
      simp only []
      cases Outbound.ofRequest r m.endpoint l.trustForwarded with
      | error err => exact hends _ _
      | ok out => exact ⟨k, hmade, hm, ht, hrun⟩

theorem Alone.resume (ha : Alone h e) (hp : p.Sound) (hne : p.members ≠ [])
    (ht : p.Tried v.made v.tried) (hs : s.pool = p.turnedBy v.made) :
    Flight.InTurn p (resume h l v s) := by
  obtain ⟨m, s₁, hm, hselect, hs₁⟩ := ha.select hp hne ht hs
  rw [resume_of_selected hselect]
  exact ha.attemptAt rfl hm (ht.succ hm) s.observers.entries hs₁

/-- Nothing that comes next is out of turn. -/
theorem Alone.step (ha : Alone h e) (hp : p.Sound) (hne : p.members ≠ [])
    {f : Flight μ ο × Site Rotation μ ο σ} (hf : Flight.InTurn p f) :
    Flight.InTurn p (Flight.step h l e f) := by
  obtain ⟨f, s⟩ := f
  cases f with
  | sending t out =>
      obtain ⟨k, hmade, -, ht, hs⟩ := hf
      rw [← hmade] at ht hs
      exact ha.conclude t _ false ht ((ha.answer t out s).trans hs)
  | resting v nanos =>
      obtain ⟨ht, hs⟩ := hf
      exact ha.resume hp hne ht ((ha.rested v nanos s).trans hs)
  | finished r o => trivial
  | crashed => trivial

theorem Alone.iterate (ha : Alone h e) (hp : p.Sound) (hne : p.members ≠ [])
    {f : Flight μ ο × Site Rotation μ ο σ} (hf : Flight.InTurn p f) (n : Nat) :
    Flight.InTurn p ((Flight.step h l e)^[n] f) := by
  induction n with
  | zero => exact hf
  | succ n ih =>
      rw [Function.iterate_succ_apply']
      exact ha.step hp hne ih

/-! ## Journeys -/

theorem Alone.tryAt (ha : Alone h e) {watching : List (String × ο)} (hs : s.pool = q)
    {a : Attempt} {r : Request} {s' : Site Rotation μ ο σ}
    (htry : tryAt h l e v m watching s = .ok (a, r, s')) :
    a.endpoint = m.endpoint ∧ s'.pool = q := by
  have hrun := ha.runMiddlewares s.middlewares.entries v.request hs
  obtain ⟨t, o, intercepted, s₁, rfl, hsettle, hs₁⟩ := settle_of_tryAt htry
  have hpool : s₁.pool = q := by
    rcases hs₁ with rfl | ⟨out, rfl⟩
    · exact hrun
    · exact (ha.answer t out _).trans hrun
  have hsettled := ha.settle t o intercepted hpool
  rw [hsettle] at hsettled
  exact ⟨(congrArg (fun x => x.1.endpoint) hsettle).symm, hsettled⟩

/-- Only the breakdown of a middleware keeps an attempt from its end. -/
theorem Alone.tryAt_error (ha : Alone h e) {watching : List (String × ο)} (hs : s.pool = q)
    {s' : Site Rotation μ ο σ} (htry : Gateway.tryAt h l e v m watching s = .error s') :
    (∃ m r s, (h.onRequest m r s).1 = .crash) ∧ s'.pool = q := by
  have hrun := ha.runMiddlewares s.middlewares.entries v.request hs
  rw [(crash_of_tryAt htry).2] at hrun
  refine ⟨?_, hrun⟩
  by_contra hnone
  exact tryAt_ne_error (fun m r s hcrash => hnone ⟨m, r, s, hcrash⟩) htry

/-- An attempt of a journey takes one turn. -/
theorem Alone.attempted (ha : Alone h e) (hp : p.Sound) (hne : p.members ≠ [])
    (ht : p.Tried v.made v.tried) (hs : s.pool = p.turnedBy v.made) {a : Attempt} {r : Request}
    {s' : Site Rotation μ ο σ} (hattempted : Attempted h l e v s m a r s') :
    p.turn? v.made = some m ∧ a.endpoint = m.endpoint ∧ s'.pool = p.turnedBy (v.made + 1) := by
  obtain ⟨s₁, hselect, htry⟩ := hattempted
  obtain ⟨m', s₂, hm, hselect', hs₂⟩ := ha.select hp hne ht hs
  rw [hselect', Prod.mk.injEq, Except.ok.injEq] at hselect
  obtain ⟨rfl, rfl⟩ := hselect
  obtain ⟨hendpoint, hpool⟩ := ha.tryAt hs₂ htry
  exact ⟨hm, hendpoint, hpool⟩

/-- A journey that breaks down in its first attempt has taken a turn for it. -/
theorem inTurn_crashed (hp : p.Sound) (hne : p.members ≠ []) {j : Journey Rotation μ ο σ}
    (hlegs : j.legs = []) (hending : j.ending = .broken)
    (hcrash : ∃ m r s, (h.onRequest m r s).1 = .crash) (hpool : j.site.pool = p.turnedBy 1) :
    j.InTurn h p where
  placed := by simp [hending]
  turns := by
    intro k leg hleg
    rw [hlegs] at hleg
    cases hleg
  moved := by
    refine ⟨1, Or.inr ⟨by rw [hlegs]; rfl, hending, hcrash⟩, hpool, ?_⟩
    rw [hpool]
    exact hp.upcoming_turnedBy hne 1

/-- A journey whose only attempt has taken the first turn. -/
theorem inTurn_single (hp : p.Sound) {j : Journey Rotation μ ο σ} {leg : Leg}
    (hlegs : j.legs = [leg]) (hplaced : ∀ err, j.ending ≠ .unplaced err)
    (hm : p.turn? 0 = some m) (hendpoint : leg.attempt.endpoint = m.endpoint)
    (hpool : j.site.pool = p.turnedBy 1) : j.InTurn h p where
  placed := hplaced
  turns := by
    intro k leg' hleg
    rw [hlegs] at hleg
    obtain ⟨rfl, rfl⟩ := getElem?_singleton hleg
    exact ⟨m, hm, hendpoint⟩
  moved := by
    refine ⟨1, Or.inl (by rw [hlegs]; rfl), hpool, ?_⟩
    rw [hpool]
    exact hp.upcoming_turnedBy (List.ne_nil_of_mem (Rotation.mem_of_turn? hm)) 1

/-- One more turn at the beginning. -/
theorem Journey.InTurn.after (hp : p.Sound) {j : Journey Rotation μ ο σ}
    (hj : j.InTurn h (p.turnedBy 1)) {leg : Leg} (hm : p.turn? 0 = some m)
    (hendpoint : leg.attempt.endpoint = m.endpoint) : (j.after leg).InTurn h p where
  placed := hj.placed
  turns := by
    intro k leg' hleg
    cases k with
    | zero =>
        obtain rfl : leg = leg' := Option.some.inj hleg
        exact ⟨m, hm, hendpoint⟩
    | succ k =>
        obtain ⟨u, hu, hendpoint'⟩ := hj.turns k leg' hleg
        have hturn := p.turn?_turnedBy 1 k
        rw [Nat.add_comm 1 k] at hturn
        exact ⟨u, hturn.symm.trans hu, hendpoint'⟩
  moved := by
    obtain ⟨n, hn, hpool, -⟩ := hj.moved
    have hmoved : j.site.pool = p.turnedBy (n + 1) := by
      rw [Nat.add_comm, ← Rotation.turnedBy_turnedBy]
      exact hpool
    refine ⟨n + 1, ?_, hmoved, ?_⟩
    · rcases hn with rfl | ⟨rfl, hbroken, hcrash⟩
      · exact Or.inl rfl
      · exact Or.inr ⟨rfl, hbroken, hcrash⟩
    · show j.site.pool.upcoming = _
      rw [hmoved]
      exact hp.upcoming_turnedBy (List.ne_nil_of_mem (Rotation.mem_of_turn? hm)) _

/-- The attempts from here on take the turns from here on. -/
theorem Alone.travel (ha : Alone h e) (hp : p.Sound) (hne : p.members ≠ [])
    (ht : p.Tried v.made v.tried) (hs : s.pool = p.turnedBy v.made) :
    (travel h l e v s).InTurn h (p.turnedBy v.made) := by
  have hsound : ∀ k, (p.turnedBy k).Sound := fun k =>
    ⟨hp.distinct, Or.inr (Nat.mod_lt _ (List.length_pos_iff.mpr hne))⟩
  -- What is carried along: each attempt that was made has moved the pool by one turn.
  refine travel_induction (P := fun v s j => p.Tried v.made v.tried → s.pool = p.turnedBy v.made →
    j.InTurn h (p.turnedBy v.made)) ?_ ?_ ?_ ?_ ?_ v s ht hs
  · intro v s err s' hselect ht hs
    obtain ⟨m, s₁, -, hselect', -⟩ := ha.select hp hne ht hs
    rw [hselect'] at hselect
    cases hselect
  · intro v s m s₁ s' hselect htry ht hs
    obtain ⟨m', s₂, hm, hselect', hs₂⟩ := ha.select hp hne ht hs
    rw [hselect', Prod.mk.injEq, Except.ok.injEq] at hselect
    obtain ⟨rfl, rfl⟩ := hselect
    obtain ⟨hcrash, hpool⟩ := ha.tryAt_error hs₂ htry
    rw [← Rotation.turnedBy_turnedBy] at hpool
    exact inTurn_crashed (hsound v.made) hne rfl rfl hcrash hpool
  · intro v s m a r s' hattempted _ ht hs
    obtain ⟨hm, hendpoint, hpool⟩ := ha.attempted hp hne ht hs hattempted
    rw [← Rotation.turnedBy_turnedBy] at hpool
    exact inTurn_single (hsound v.made) rfl (fun _ => Ending.noConfusion)
      ((p.turn?_turnedBy v.made 0).trans hm) hendpoint hpool
  · intro v s m a r s' hattempted _ _ ht hs
    obtain ⟨hm, hendpoint, hpool⟩ := ha.attempted hp hne ht hs hattempted
    rw [← Rotation.turnedBy_turnedBy] at hpool
    exact inTurn_single (hsound v.made) rfl (fun _ => Ending.noConfusion)
      ((p.turn?_turnedBy v.made 0).trans hm) hendpoint hpool
  · rintro v s m a r s' nanos v' s'' hattempted - - rfl rfl hrest ht hs
    obtain ⟨hm, hendpoint, hpool⟩ := ha.attempted hp hne ht hs hattempted
    have hj := hrest (ht.succ hm) ((ha.rested _ nanos _).trans hpool)
    rw [Visit.toNext, ← Rotation.turnedBy_turnedBy] at hj
    exact hj.after (hsound v.made) ((p.turn?_turnedBy v.made 0).trans hm) hendpoint

/-- A request that is alone at a rotation takes one turn for each attempt, in order, however
many there are; at every point where it waits, and in the end, the pool is where so many
turns lead to. -/
theorem roundTrip_inTurn (ha : Alone h e) (l : Location) (r : Request)
    {s : Site Rotation μ ο σ} (hsound : s.pool.Sound) (hne : s.pool.members ≠ []) :
    (∀ n, Flight.InTurn s.pool ((Flight.step h l e)^[n] (launch h l r s))) ∧
      Leads h l e (launch h l r s) ((roundTrip h l e r s).flight, (roundTrip h l e r s).site) ∧
      (roundTrip h l e r s).InTurn h s.pool := by
  have htried := Rotation.tried_zero s.pool
  have hpool := hsound.turnedBy_zero hne
  refine ⟨fun n => ?_, leads_roundTrip r s, ?_⟩
  · exact ha.iterate hsound hne (ha.resume hsound hne htried hpool.symm) n
  · have hj := ha.travel (l := l) (v := Visit.first l r s) hsound hne htried hpool.symm
    rw [show (Visit.first l r s).made = 0 from rfl, hpool] at hj
    exact hj

end

/-! ## Two endpoints that do not answer -/

/-- Without handlers, while every endpoint answers in its way, a request is alone. -/
theorem alone_quiet {σ : Type} (outcome : Member → Outcome) :
    Alone (Handlers.none (σ := σ)) (.quiet outcome) where
  handlers := {
    onRequest := fun m => nomatch m.2
    onResponse := fun m => nomatch m.2
    seeRequest := fun o => nomatch o.2
    seeResponse := fun o => nomatch o.2
    seeFailure := fun o => nomatch o.2 }
  answer _ _ _ := rfl
  rested _ _ _ := rfl

namespace Twins

/-- Both endpoints, the second of which has the next turn. -/
def rotation : Rotation := Rotation.empty.run (members.map .add ++ [.next])

def rotating : Site Rotation Empty Empty Unit where
  now := 0
  pool := rotation
  ledger := .empty
  middlewares := .empty
  observers := .empty
  draws := ⟨[0.5]⟩
  shared := ()

/-- Five attempts, none of which is answered in time. -/
def patient : FailoverPolicy where
  maxAttempts := some 5

def silent (_ : Member) : Outcome := .error (.timeout Duration.second)

/-- The way of a request that nobody answers. -/
def rounds : Journey Rotation Empty Empty Unit :=
  roundTrip Handlers.none (location patient) (.quiet silent) request rotating

end Twins

/-- Five attempts at two endpoints, from the second on. -/
theorem roundTrip_inTurn_twins :
    Alone (Handlers.none (σ := Unit)) (.quiet Twins.silent) ∧ Twins.rotating.pool.Sound ∧
    Twins.rotating.pool.members ≠ [] ∧
    Twins.rounds.InTurn Handlers.none Twins.rotating.pool ∧
    Twins.rounds.legs.map (·.attempt.endpoint.url) =
      ["http://b/", "http://a/", "http://b/", "http://a/", "http://b/"] ∧
    Twins.rounds.site.pool.cursor = 0 := by
  have hsound : Twins.rotating.pool.Sound := Rotation.sound_empty.run _
  have hne : Twins.rotating.pool.members ≠ [] := by decide
  refine ⟨alone_quiet Twins.silent, hsound, hne, ?_, ?_, ?_⟩
  · exact (roundTrip_inTurn (alone_quiet Twins.silent) (Twins.location Twins.patient)
      Twins.request hsound hne).2.2
  · decide +kernel
  · decide +kernel

end Gateway
