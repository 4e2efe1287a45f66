import Gateway.Proofs.Location.Journey
import Mathlib.Data.List.Basic

/-!
# Which attempts follow

A request is tried again exactly if the policy allows for it, and what was tried is in
its history. Handlers may change its headers, body and attributes and anything about the
site, but neither its method, its target nor its history, and they do not break down.
-/

namespace Gateway

/-- The parts of a request that no handler changes are the same. -/
structure Request.Alike (r r' : Request) : Prop where
  method : r'.method = r.method
  uri : r'.uri = r.uri
  attempts : r'.attempts = r.attempts

/-- Handlers do not break down, and leave alone what is not theirs. -/
structure Handlers.Lawful {β μ ο σ : Type} (h : Handlers β μ ο σ) : Prop where
  onRequest_verdict : ∀ m r s, (h.onRequest m r s).1 ≠ .crash
  onRequest_alike : ∀ m r s, Request.Alike r (h.onRequest m r s).2.1
  onResponse_alike : ∀ m r a s, Request.Alike r (h.onResponse m r a s).1

namespace FailoverPolicy

/-- A failure that another attempt may make good: the backend did not answer in time, was
not reached, may carry out the request twice, or answered with a status set to be retried. -/
def WorthAnother (p : FailoverPolicy) (m : Method) : Outcome → Prop
  | .error (.timeout _) => True
  | .error (.transport e) =>
      e.isConnect = true ∨ m.name ∈ ["GET", "HEAD", "OPTIONS", "TRACE", "PUT", "DELETE"]
  | .error _ => False
  | .ok response => response.status.code ∈ p.retryableStatuses

theorem isRetryable_iff (p : FailoverPolicy) (m : Method) (o : Outcome) :
    p.isRetryable m o = true ↔ p.WorthAnother m o := by
  rcases o with e | response
  · cases e <;> simp [isRetryable, Error.isRetryable, WorthAnother, Method.isIdempotent,
      Method.idempotentNames]
  · simp [isRetryable, isRetryableStatus, WorthAnother]

/-- Attempt `no` is to be followed by another one. -/
structure Wanted (p : FailoverPolicy) (m : Method) (budget no : Nat) (a : Attempt) : Prop where
  within : no < budget
  passed : a.intercepted = false
  failed : p.WorthAnother m a.outcome

theorem shouldRetry_iff (p : FailoverPolicy) (m : Method) (a : Attempt) (no budget : Nat) :
    p.shouldRetry m a no budget = true ↔ p.Wanted m budget no a := by
  unfold shouldRetry
  rw [Bool.and_eq_true, Bool.and_eq_true, decide_eq_true_eq, isRetryable_iff, Bool.not_eq_true']
  constructor
  · rintro ⟨⟨hlt, hpassed⟩, hfailed⟩
    exact ⟨hlt, hpassed, hfailed⟩
  · rintro ⟨hlt, hpassed, hfailed⟩
    exact ⟨⟨hlt, hpassed⟩, hfailed⟩

/-- The rest after attempt `no` cannot be told in 64 bits. -/
def Overflows (p : FailoverPolicy) (draw : Float) (no : Nat) : Prop :=
  p.backoffBase ≠ 0 ∧ maxMillis < p.capped no + jitter draw (p.capped no)

theorem overflows_iff (p : FailoverPolicy) (draw : Float) {no : Nat} (hno : no ≠ 0) :
    p.backoff draw no = .overflow ↔ p.Overflows draw no := by
  unfold backoff Overflows rests restWith
  by_cases hbase : p.backoffBase = 0
  · simp [hbase]
  · by_cases hlt : maxMillis < p.capped no + jitter draw (p.capped no)
    · simp [hbase, hno, hlt]
    · simp [hbase, hno, hlt]

end FailoverPolicy

/-! ## What handlers leave alone -/

theorem Request.Alike.refl (r : Request) : r.Alike r :=
  ⟨rfl, rfl, rfl⟩

theorem Request.Alike.trans {r r' r'' : Request} (h : r.Alike r') (h' : r'.Alike r'') :
    r.Alike r'' :=
  ⟨h'.method.trans h.method, h'.uri.trans h.uri, h'.attempts.trans h.attempts⟩

section

variable {β μ ο σ : Type} {h : Handlers β μ ο σ}

theorem runMiddlewares_alike (hh : h.Lawful) (ms : List (String × μ)) (r : Request)
    (s : Site β μ ο σ) : r.Alike (runMiddlewares h ms r s).2.2.1 :=
  runMiddlewares_request (fun m r' s hr => hr.trans (hh.onRequest_alike m r' s)) ms
    (Request.Alike.refl r) s

theorem tellMiddlewares_lawful (hh : h.Lawful) (a : Attempt) (ran : List (String × μ))
    (r : Request) (s : Site β μ ο σ) : r.Alike (tellMiddlewares h a ran r s).1 :=
  tellMiddlewares_request (fun m r' s hr => hr.trans (hh.onResponse_alike m r' a s)) ran
    (Request.Alike.refl r) s

/-- An attempt at an endpoint has come into the history of the request. -/
structure Recorded (r : Request) (m : Member) (a : Attempt) (r' : Request) : Prop where
  endpoint : a.endpoint = m.endpoint
  method : r'.method = r.method
  uri : r'.uri = r.uri
  attempts : r'.attempts = r.attempts ++ [a.summary]

theorem settle_recorded (hh : h.Lawful) (t : Trial μ ο) (o : Outcome) (intercepted : Bool)
    (s : Site β μ ο σ) {r : Request} (hr : r.Alike t.visit.request) :
    Recorded r t.member (settle h t o intercepted s).1 (settle h t o intercepted s).2.1 := by
  have htold := tellMiddlewares_lawful hh (settle h t o intercepted s).1 t.ran
    (t.visit.request.record (settle h t o intercepted s).1.summary) s
  constructor
  · rfl
  · exact htold.method.trans hr.method
  · exact htold.uri.trans hr.uri
  · refine htold.attempts.trans ?_
    rw [Request.record, hr.attempts]

/-- An attempt ends in one way or another. -/
theorem tryAt_settles (hh : h.Lawful) (l : Location) (e : Surroundings β μ ο σ) (v : Visit)
    (m : Member) (watching : List (String × ο)) (s : Site β μ ο σ) :
    ∃ (t : Trial μ ο) (o : Outcome) (intercepted : Bool) (s' : Site β μ ο σ),
      t.member = m ∧ v.request.Alike t.visit.request ∧
        tryAt h l e v m watching s = .ok (settle h t o intercepted s') := by
  have hverdict := runMiddlewares_ne_crash hh.onRequest_verdict s.middlewares.entries v.request s
  have halike := runMiddlewares_alike hh s.middlewares.entries v.request s
  unfold tryAt
  rcases hrun : runMiddlewares h s.middlewares.entries v.request s with ⟨ran, verdict, r, s₁⟩
  rw [hrun] at hverdict halike
  cases verdict with
  | crash => exact absurd rfl hverdict
  | respond response => exact ⟨_, _, _, _, rfl, halike, rfl⟩
  | reject rejection => exact ⟨_, _, _, _, rfl, halike, rfl⟩
  | pass =>
      simp only []
      cases hout : Outbound.ofRequest r m.endpoint l.trustForwarded with
      | error err =>
          exact ⟨⟨{ v with request := r }, m, s.now, ran, watching⟩, .error err, false, s₁, rfl,
            halike, rfl⟩
      | ok out =>
          exact ⟨⟨{ v with request := r }, m, s.now, ran, watching⟩, _, false, _, rfl, halike, rfl⟩

theorem tryAt_recorded (hh : h.Lawful) {l : Location} {e : Surroundings β μ ο σ} {v : Visit}
    {m : Member} {watching : List (String × ο)} {s s' : Site β μ ο σ} {a : Attempt} {r : Request}
    (htry : tryAt h l e v m watching s = .ok (a, r, s')) : Recorded v.request m a r := by
  obtain ⟨t, o, intercepted, s₁, rfl, halike, hsettle⟩ := tryAt_settles hh l e v m watching s
  have hrecorded := settle_recorded hh t o intercepted s₁ halike
  rw [Except.ok.inj (hsettle.symm.trans htry)] at hrecorded
  exact hrecorded

end

theorem Handlers.none_lawful {β σ : Type} : (Handlers.none (β := β) (σ := σ)).Lawful where
  onRequest_verdict m := nomatch m.2
  onRequest_alike m := nomatch m.2
  onResponse_alike m := nomatch m.2

/-! ## The attempts that follow -/

/-- How the attempts of a journey follow each other. The number of an attempt counts those
that were made before. -/
structure Journey.Regular {β μ ο σ : Type} [Balancer β] (j : Journey β μ ο σ)
    (p : FailoverPolicy) (v : Visit) : Prop where
  begun : 0 < j.rounds
  /-- The budget is not exceeded, not even by an attempt that finds no endpoint. -/
  within : v.made + j.rounds ≤ v.budget
  /-- Another attempt is begun exactly if one is wanted, unless the rest overflows. -/
  follows_iff : ∀ i leg, j.legs[i]? = some leg →
    (i + 1 < j.rounds ↔ p.Wanted v.request.method v.budget (v.made + i + 1) leg.attempt ∧
      ¬ p.Overflows leg.draw (v.made + i + 1))
  /-- The journey breaks off exactly if the rest before an attempt that is wanted overflows. -/
  broken_iff : j.ending = .broken ↔ ∃ leg, j.legs.getLast? = some leg ∧
    p.Wanted v.request.method v.budget (v.made + j.legs.length) leg.attempt ∧
    p.Overflows leg.draw (v.made + j.legs.length)
  /-- The answer is the outcome of the last attempt. -/
  answered : ∀ o, j.ending = .answered o →
    ∃ leg, j.legs.getLast? = some leg ∧ leg.attempt.outcome = o
  /-- Without an endpoint for another attempt, the answer is why there was none. -/
  unplaced : ∀ err, j.ending = .unplaced err → ∃ s s' : Site β μ ο σ,
    selectEndpoint ((j.legs.map (·.attempt.endpoint.id)).reverse ++ v.tried) s = (.error err, s')
  /-- The attempts are in the history of the request, one after another. -/
  history : j.request.attempts = v.request.attempts ++ j.legs.map (·.attempt.summary)

section

variable {β μ ο σ : Type} [Balancer β] {p : FailoverPolicy} {v : Visit}

theorem regular_unplaced (hv : v.made < v.budget) {err : Error} {s s' : Site β μ ο σ}
    (hselect : selectEndpoint v.tried s = (.error err, s')) (s'' : Site β μ ο σ) :
    (⟨[], v.request, .unplaced err, s''⟩ : Journey β μ ο σ).Regular p v where
  begun := Nat.one_pos
  within := hv
  follows_iff := by
    intro i leg hleg
    cases hleg
  broken_iff := by simp
  answered := by
    intro o ho
    cases ho
  unplaced := by
    intro err' herr
    obtain rfl : err = err' := Ending.unplaced.inj herr
    exact ⟨s, s', hselect⟩
  history := (List.append_nil _).symm

theorem getElem?_singleton {leg leg' : Leg} {i : Nat} (h : [leg][i]? = some leg') :
    i = 0 ∧ leg' = leg := by
  cases i with
  | zero => exact ⟨rfl, (Option.some.inj h).symm⟩
  | succ i => cases h

/-- The last attempt, and the number of those before it. -/
theorem exists_getElem?_of_getLast? {legs : List Leg} {leg : Leg} (h : legs.getLast? = some leg) :
    ∃ i, i + 1 = legs.length ∧ legs[i]? = some leg := by
  rw [List.getLast?_eq_getElem?] at h
  have hlt := (List.getElem?_eq_some_iff.mp h).1
  exact ⟨legs.length - 1, by omega, h⟩

theorem getLast?_of_getElem? {legs : List Leg} {leg : Leg} {i : Nat} (h : legs[i]? = some leg)
    (hlength : legs.length = i + 1) : legs.getLast? = some leg := by
  rw [List.getLast?_eq_getElem?, hlength]
  exact h

theorem regular_last (hv : v.made < v.budget) (leg : Leg) {r : Request}
    (hattempts : r.attempts = v.request.attempts ++ [leg.attempt.summary])
    (hretry : ¬ p.Wanted v.request.method v.budget (v.made + 1) leg.attempt)
    (s : Site β μ ο σ) :
    (⟨[leg], r, .answered leg.attempt.outcome, s⟩ : Journey β μ ο σ).Regular p v where
  begun := Nat.one_pos
  within := hv
  follows_iff := by
    intro i leg' hleg
    obtain ⟨rfl, rfl⟩ := getElem?_singleton hleg
    constructor
    · intro hlt
      exact absurd hlt (Nat.lt_irrefl 1)
    · rintro ⟨hwanted, -⟩
      exact absurd hwanted hretry
  broken_iff := by
    constructor
    · intro hbroken
      cases hbroken
    · rintro ⟨leg', hleg, hwanted, -⟩
      obtain rfl : leg = leg' := Option.some.inj hleg
      exact absurd hwanted hretry
  answered := by
    intro o ho
    exact ⟨leg, rfl, Ending.answered.inj ho⟩
  unplaced := by
    intro err herr
    cases herr
  history := hattempts

theorem regular_overflow (leg : Leg) {r : Request}
    (hattempts : r.attempts = v.request.attempts ++ [leg.attempt.summary])
    (hretry : p.Wanted v.request.method v.budget (v.made + 1) leg.attempt)
    (hrest : p.Overflows leg.draw (v.made + 1)) (s : Site β μ ο σ) :
    (⟨[leg], r, .broken, s⟩ : Journey β μ ο σ).Regular p v where
  begun := Nat.one_pos
  within := Nat.le_of_lt hretry.within
  follows_iff := by
    intro i leg' hleg
    obtain ⟨rfl, rfl⟩ := getElem?_singleton hleg
    constructor
    · intro hlt
      exact absurd hlt (Nat.lt_irrefl 1)
    · rintro ⟨-, hrests⟩
      exact absurd hrest hrests
  broken_iff := ⟨fun _ => ⟨leg, rfl, hretry, hrest⟩, fun _ => rfl⟩
  answered := by
    intro o ho
    cases ho
  unplaced := by
    intro err herr
    cases herr
  history := hattempts

/-- One more attempt at the beginning. -/
theorem Journey.Regular.after {j : Journey β μ ο σ} {v' : Visit} (hj : j.Regular p v')
    (leg : Leg) (hmade : v'.made = v.made + 1)
    (htried : v'.tried = leg.attempt.endpoint.id :: v.tried) (hbudget : v'.budget = v.budget)
    (hmethod : v'.request.method = v.request.method)
    (hattempts : v'.request.attempts = v.request.attempts ++ [leg.attempt.summary])
    (hretry : p.Wanted v.request.method v.budget (v.made + 1) leg.attempt)
    (hrest : ¬ p.Overflows leg.draw (v.made + 1)) : (j.after leg).Regular p v where
  begun := by
    rw [rounds_after]
    exact Nat.succ_pos _
  within := by
    have hwithin := hj.within
    rw [rounds_after]
    omega
  follows_iff := by
    intro i leg' hleg
    rw [rounds_after]
    cases i with
    | zero =>
        obtain rfl : leg = leg' := Option.some.inj hleg
        have hbegun := hj.begun
        exact ⟨fun _ => ⟨hretry, hrest⟩, fun _ => by omega⟩
    | succ i =>
        have hfollows := hj.follows_iff i leg' hleg
        rw [hmade, hbudget, hmethod, Nat.add_right_comm v.made 1 i] at hfollows
        rw [Nat.add_lt_add_iff_right]
        exact hfollows
  broken_iff := by
    refine hj.broken_iff.trans ?_
    rw [hmade, hbudget, hmethod]
    have hlast : (j.after leg).legs.getLast? = j.legs.getLast?.or (some leg) := by
      show (leg :: j.legs).getLast? = _
      rw [List.getLast?_cons]
      cases j.legs.getLast? <;> rfl
    have hlength : v.made + (j.after leg).legs.length = v.made + 1 + j.legs.length := by
      show v.made + (leg :: j.legs).length = _
      rw [List.length_cons]
      omega
    rw [hlast, hlength]
    cases hj' : j.legs.getLast? with
    | some leg' => rfl
    | none =>
        -- The new attempt is the only one, and its rest does not overflow.
        rw [List.getLast?_eq_none_iff] at hj'
        rw [hj']
        constructor
        · rintro ⟨leg', hleg', -⟩
          cases hleg'
        · rintro ⟨leg', hleg', -, hoverflows⟩
          obtain rfl : leg = leg' := Option.some.inj hleg'
          exact absurd hoverflows hrest
  answered := by
    intro o ho
    obtain ⟨leg', hlast, houtcome⟩ := hj.answered o ho
    refine ⟨leg', ?_, houtcome⟩
    show (leg :: j.legs).getLast? = _
    rw [List.getLast?_cons, hlast]
    rfl
  unplaced := by
    intro err herr
    have hunplaced := hj.unplaced err herr
    rw [htried] at hunplaced
    show ∃ s s' : Site β μ ο σ, selectEndpoint (((leg :: j.legs).map _).reverse ++ _) s = _
    rw [List.map_cons, List.reverse_cons, List.append_assoc]
    exact hunplaced
  history := by
    show j.request.attempts = _ ++ (leg :: j.legs).map _
    rw [hj.history, hattempts, List.map_cons, List.append_assoc]
    rfl

end

section

variable {β μ ο σ : Type} [Balancer β] {h : Handlers β μ ο σ}

theorem Attempted.recorded (hh : h.Lawful) {l : Location} {e : Surroundings β μ ο σ} {v : Visit}
    {s s' : Site β μ ο σ} {m : Member} {a : Attempt} {r : Request}
    (hattempted : Attempted h l e v s m a r s') : Recorded v.request m a r := by
  obtain ⟨s₁, -, htry⟩ := hattempted
  have hrecorded := tryAt_recorded hh htry
  exact hrecorded

theorem travel_regular (hh : h.Lawful) (l : Location) (e : Surroundings β μ ο σ) {v : Visit}
    (hv : v.made < v.budget) (s : Site β μ ο σ) : (travel h l e v s).Regular l.failover v := by
  refine travel_induction
    (P := fun v s j => v.made < v.budget → j.Regular l.failover v) ?_ ?_ ?_ ?_ ?_ v s hv
  · intro v s err s' hselect hv
    exact regular_unplaced hv hselect _
  · intro v s m s₁ s' _ htry
    exact absurd htry (tryAt_ne_error hh.onRequest_verdict)
  · rintro v s m a r s' hattempted hretry hv
    have hrecorded := hattempted.recorded hh
    have hnot : ¬ l.failover.Wanted v.request.method v.budget (v.made + 1) a := by
      rw [← FailoverPolicy.shouldRetry_iff, ← hrecorded.method, hretry]
      exact Bool.false_ne_true
    exact regular_last hv ⟨a, s'.draws.take.1⟩ hrecorded.attempts hnot s'
  · rintro v s m a r s' hattempted hretry hrest hv
    have hrecorded := hattempted.recorded hh
    rw [hrecorded.method, FailoverPolicy.shouldRetry_iff] at hretry
    rw [FailoverPolicy.overflows_iff _ _ (Nat.succ_ne_zero _)] at hrest
    exact regular_overflow ⟨a, s'.draws.take.1⟩ hrecorded.attempts hretry hrest _
  · rintro v s m a r s' nanos v' s'' hattempted hretry hpause rfl - hregular hv
    have hrecorded := hattempted.recorded hh
    have hlt := FailoverPolicy.lt_of_shouldRetry hretry
    rw [hrecorded.method, FailoverPolicy.shouldRetry_iff] at hretry
    have hrest : ¬ l.failover.Overflows s'.draws.take.1 (v.made + 1) := by
      rw [← FailoverPolicy.overflows_iff _ _ (Nat.succ_ne_zero _), ← Rest.pause?_eq_none, hpause]
      exact Option.some_ne_none _
    have htried : m.id :: v.tried = a.endpoint.id :: v.tried := by
      rw [hrecorded.endpoint]
      rfl
    exact (hregular hlt).after ⟨a, s'.draws.take.1⟩ rfl htried rfl hrecorded.method
      hrecorded.attempts hretry hrest

theorem FailoverPolicy.budget_pos (p : FailoverPolicy) (n : Nat) : 0 < p.budget n := by
  unfold budget
  omega

theorem FailoverPolicy.budget_le {p : FailoverPolicy}
    (hmax : ∀ n, p.maxAttempts = some n → n ≤ maxCount) (n : Nat) : p.budget n ≤ maxCount := by
  have hone : 1 ≤ maxCount := by decide
  unfold budget
  cases hp : p.maxAttempts with
  | none =>
      rw [Option.getD_none]
      omega
  | some k =>
      have hk := hmax k hp
      rw [Option.getD_some]
      omega

/-- An attempt is followed by another one exactly if one is wanted, unless the journey
breaks off. -/
theorem Journey.Regular.follows_exactly_iff {j : Journey β μ ο σ} {p : FailoverPolicy} {v : Visit}
    (hj : j.Regular p v) :
    (∀ i leg, j.legs[i]? = some leg →
      (i + 1 < j.rounds ↔ p.Wanted v.request.method v.budget (v.made + i + 1) leg.attempt)) ↔
      j.ending ≠ .broken := by
  constructor
  · intro hall hbroken
    obtain ⟨leg, hlast, hwanted, -⟩ := hj.broken_iff.mp hbroken
    obtain ⟨i, hlength, hleg⟩ := exists_getElem?_of_getLast? hlast
    have hmore := (hall i leg hleg).mpr (by rwa [Nat.add_assoc, hlength])
    rw [hlength, Journey.rounds, hbroken] at hmore
    exact absurd hmore (Nat.lt_irrefl _)
  · intro hbroken i leg hleg
    constructor
    · intro hmore
      exact ((hj.follows_iff i leg hleg).mp hmore).1
    · intro hwanted
      refine (hj.follows_iff i leg hleg).mpr ⟨hwanted, ?_⟩
      intro hoverflows
      -- Nothing follows this attempt then, and the journey has broken off behind it.
      have hnot : ¬ i + 1 < j.rounds := by
        intro hmore
        exact ((hj.follows_iff i leg hleg).mp hmore).2 hoverflows
      have hlt := (List.getElem?_eq_some_iff.mp hleg).1
      have hle := j.length_le_rounds
      have hlength : j.legs.length = i + 1 := by omega
      refine hbroken (hj.broken_iff.mpr ⟨leg, getLast?_of_getElem? hleg hlength, ?_, ?_⟩)
      · rw [hlength]
        exact hwanted
      · rw [hlength]
        exact hoverflows

/-! ## Every request -/

/-- What becomes of a request that may take so many attempts. -/
structure Journey.Exact {β μ ο σ : Type} [Balancer β] (j : Journey β μ ο σ)
    (p : FailoverPolicy) (r : Request) (budget : Nat) : Prop where
  attempts_le : j.legs.length ≤ budget
  /-- The number of the attempt that is begun last fits into 32 bits. -/
  counter_le : j.rounds ≤ FailoverPolicy.maxCount
  /-- Another attempt is begun exactly if one is wanted and the rest before it can be told. -/
  follows_iff : ∀ i leg, j.legs[i]? = some leg →
    (i + 1 < j.rounds ↔
      p.Wanted r.method budget (i + 1) leg.attempt ∧ ¬ p.Overflows leg.draw (i + 1))
  breaks_iff : j.ending = .broken ↔ ∃ leg, j.legs.getLast? = some leg ∧
    p.Wanted r.method budget j.legs.length leg.attempt ∧ p.Overflows leg.draw j.legs.length
  /-- Every attempt that is wanted is begun, unless the journey breaks off. -/
  retries_iff : (∀ i leg, j.legs[i]? = some leg →
    (i + 1 < j.rounds ↔ p.Wanted r.method budget (i + 1) leg.attempt)) ↔ j.ending ≠ .broken
  /-- A request that must not be carried out twice is not sent again once a backend may
  have seen it. -/
  not_again : ∀ i leg e, j.legs[i]? = some leg → leg.attempt.outcome = .error (.transport e) →
    e.isConnect = false →
    r.method.name ∉ ["GET", "HEAD", "OPTIONS", "TRACE", "PUT", "DELETE"] →
    i + 1 = j.legs.length ∧ j.ending = .answered leg.attempt.outcome
  answered : ∀ o, j.ending = .answered o →
    ∃ leg, j.legs.getLast? = some leg ∧ leg.attempt.outcome = o
  unplaced : ∀ err, j.ending = .unplaced err → ∃ s s' : Site β μ ο σ,
    selectEndpoint (j.legs.map (·.attempt.endpoint.id)).reverse s = (.error err, s')
  history : j.request.attempts = r.attempts ++ j.legs.map (·.attempt.summary)

theorem Journey.Regular.not_again {j : Journey β μ ο σ} {p : FailoverPolicy} {v : Visit}
    (hj : j.Regular p v) {i : Nat} {leg : Leg} (hleg : j.legs[i]? = some leg)
    (hnot : ¬ p.Wanted v.request.method v.budget (v.made + i + 1) leg.attempt) :
    i + 1 = j.legs.length ∧ j.ending = .answered leg.attempt.outcome := by
  have hmore : ¬ i + 1 < j.rounds := by
    intro hmore
    exact hnot ((hj.follows_iff i leg hleg).mp hmore).1
  have hlt := (List.getElem?_eq_some_iff.mp hleg).1
  have hle := j.length_le_rounds
  have hlength : j.legs.length = i + 1 := by omega
  have hlast := getLast?_of_getElem? hleg hlength
  refine ⟨hlength.symm, ?_⟩
  -- This was the last attempt, and no other ending fits one that is not wanted again.
  cases hending : j.ending with
  | answered o =>
      obtain ⟨leg', hlast', houtcome⟩ := hj.answered o hending
      obtain rfl : leg = leg' := Option.some.inj (hlast.symm.trans hlast')
      rw [houtcome]
  | unplaced err =>
      have hrounds : j.rounds = j.legs.length + 1 := by rw [Journey.rounds, hending]
      omega
  | broken =>
      obtain ⟨leg', hlast', hwanted, -⟩ := hj.broken_iff.mp hending
      obtain rfl : leg = leg' := Option.some.inj (hlast.symm.trans hlast')
      rw [hlength, ← Nat.add_assoc] at hwanted
      exact absurd hwanted hnot

theorem Journey.Regular.exact {j : Journey β μ ο σ} {p : FailoverPolicy} {r : Request}
    {budget : Nat} (hj : j.Regular p { request := r, budget })
    (hbudget : budget ≤ FailoverPolicy.maxCount) : j.Exact p r budget where
  attempts_le := by
    have hle := j.length_le_rounds
    have hwithin : 0 + j.rounds ≤ budget := hj.within
    omega
  counter_le := by
    have hwithin : 0 + j.rounds ≤ budget := hj.within
    omega
  follows_iff := by
    intro i leg hleg
    have hfollows := hj.follows_iff i leg hleg
    rwa [Nat.zero_add] at hfollows
  breaks_iff := by
    have hbroken := hj.broken_iff
    rwa [Nat.zero_add] at hbroken
  retries_iff := by
    have hexactly := hj.follows_exactly_iff
    simp only [Nat.zero_add] at hexactly
    exact hexactly
  not_again := by
    intro i leg e hleg houtcome hconnect hmethod
    refine hj.not_again hleg ?_
    intro hwanted
    have hfailed := hwanted.failed
    rw [houtcome] at hfailed
    rcases hfailed with hconnect' | hmethod'
    · rw [hconnect] at hconnect'
      exact absurd hconnect' Bool.false_ne_true
    · exact hmethod hmethod'
  answered := hj.answered
  unplaced := by
    intro err herr
    have hunplaced := hj.unplaced err herr
    rwa [List.append_nil] at hunplaced
  history := hj.history

/-- A request comes to an end behind exactly the attempts that are wanted, unless a rest
before one of them overflows. -/
theorem roundTrip_exact (hh : h.Lawful) {l : Location}
    (hmax : ∀ n, l.failover.maxAttempts = some n → n ≤ FailoverPolicy.maxCount)
    (e : Surroundings β μ ο σ) (r : Request) (s : Site β μ ο σ) :
    Leads h l e (launch h l r s) ((roundTrip h l e r s).flight, (roundTrip h l e r s).site) ∧
      (roundTrip h l e r s).Exact l.failover r
        (l.failover.budget (Balancer.members s.pool).length) := by
  refine ⟨leads_roundTrip r s, ?_⟩
  have hregular := travel_regular hh l e (l.failover.budget_pos _) s (v := Visit.first l r s)
  exact hregular.exact (FailoverPolicy.budget_le hmax _)

end

theorem roundTrip_exact_twins : (Handlers.none (β := Offering) (σ := Unit)).Lawful ∧
    (∀ n, (Twins.location {}).failover.maxAttempts = some n → n ≤ FailoverPolicy.maxCount) ∧
    (Twins.journey {}).Exact {} Twins.request 2 ∧ (Twins.journey {}).rounds = 2 := by
  have hmax : ∀ n, (Twins.location {}).failover.maxAttempts = some n → n ≤ FailoverPolicy.maxCount := by
    intro n hn
    cases hn
  refine ⟨Handlers.none_lawful, hmax, ?_, by decide +kernel⟩
  exact (roundTrip_exact Handlers.none_lawful hmax (.quiet Twins.outcome) Twins.request Twins.site).2

/-- The rest behind a failure that another endpoint would make good does not fit into 64 bits. -/
theorem wanted_not_followed :
    ¬ ∀ i leg, (Twins.journey Twins.longRests).legs[i]? = some leg →
      (i + 1 < (Twins.journey Twins.longRests).rounds ↔
        Twins.longRests.Wanted Twins.request.method 2 (i + 1) leg.attempt) := by
  intro hall
  have hretry : ((Twins.journey Twins.longRests).legs[0]?.any fun leg =>
      Twins.longRests.shouldRetry Twins.request.method leg.attempt 1 2) = true := by
    decide +kernel
  obtain ⟨leg, hleg, hretry⟩ := (Option.any_eq_true _ _).mp hretry
  rw [FailoverPolicy.shouldRetry_iff] at hretry
  have hmore := (hall 0 leg hleg).mpr hretry
  have hrounds : (Twins.journey Twins.longRests).rounds = 1 := by decide +kernel
  rw [hrounds] at hmore
  exact absurd hmore (Nat.lt_irrefl 1)

end Gateway
