import Gateway.Proofs.Location.Books

/-!
# What a breaker learns from

A breaker hears of every attempt that all middlewares let pass, and it should learn from those
that a backend has ended. But an attempt whose request cannot be made for its endpoint is
reported like any other, and it is taken for a success, although no backend was asked. Apart
from these, the breaker has counted what the endpoints have.
-/

namespace Gateway

open Builtin

/-! ## Counting attempts -/

namespace Breaker

/-- The numbers of all attempts and of failed ones. -/
def counts (b : Breaker) : Nat × Nat := (b.total, b.failed)

/-- How an attempt is counted. -/
def count (a : Attempt) (x : Nat × Nat) : Nat × Nat :=
  if a.intercepted then x
  else if isFailure a then (x.1 + 1, x.2 + 1)
  else (x.1 + 1, x.2)

theorem counts_permit (s : BreakerSettings) (now : Nat) (b : Breaker) :
    (b.permit s now).2.counts = b.counts := by
  unfold permit
  split
  · rfl
  · rfl
  · split <;> rfl

theorem counts_success (s : BreakerSettings) (b : Breaker) :
    (b.success s).counts = (b.total + 1, b.failed) := by
  unfold success
  simp only []
  split
  · rfl
  · split <;> rfl
  · rfl

theorem counts_failure (s : BreakerSettings) (now : Nat) (b : Breaker) :
    (b.failure s now).counts = (b.total + 1, b.failed + 1) := by
  unfold failure
  simp only []
  split
  · split <;> rfl
  · rfl
  · rfl

theorem counts_observe (s : BreakerSettings) (now : Nat) (a : Attempt) (b : Breaker) :
    (b.observe s now a).counts = count a b.counts := by
  unfold observe count
  split
  · rfl
  · split
    · exact counts_failure s now b
    · exact counts_success s b

theorem count_foldl (as : List Attempt) (x : Nat × Nat) :
    as.foldl (fun x a => count a x) x =
      (x.1 + as.countP fun a => !a.intercepted,
        x.2 + as.countP fun a => !a.intercepted && isFailure a) := by
  induction as generalizing x with
  | nil => rfl
  | cons a as ih =>
      rw [List.foldl_cons, ih, List.countP_cons, List.countP_cons]
      unfold count
      cases a.intercepted <;> cases isFailure a <;> simp <;> omega

end Breaker

/-! ## The account of a breaker -/

/-- Whether a middleware is the breaker at a place in the store. -/
def Middleware.guards {ξ : Type} (slot : Nat) : Middleware ξ → Bool
  | .breaker _ n => n = slot
  | _ => false

/-- How many middlewares are the breaker at a place. -/
def guardians {ξ : Type} (slot : Nat) (ms : List (String × Middleware ξ)) : Nat :=
  ms.countP (·.2.guards slot)

namespace Builtin

variable {β ξ ζ τ : Type}

/-- What the breaker at a place has counted, if there is one. -/
def counters (slot : Nat) (s : Workplace β ξ ζ τ) : Option (Nat × Nat) :=
  s.shared.breakers[slot]?.map Breaker.counts

theorem breaker_of_counters {slot : Nat} {s : Workplace β ξ ζ τ} {x : Nat × Nat}
    (hs : counters slot s = some x) : (s.shared.breaker slot).counts = x := by
  obtain ⟨b, hget, hcounts⟩ := Option.map_eq_some_iff.mp hs
  unfold Store.breaker
  rw [hget]
  exact hcounts

theorem counters_setBreaker {slot n : Nat} {b : Breaker} {f : Nat × Nat → Nat × Nat}
    {s : Workplace β ξ ζ τ} (hb : b.counts = f (s.shared.breaker n).counts) :
    counters slot (modifyStore (·.setBreaker n b) s) =
      if n = slot then (counters slot s).map f else counters slot s := by
  unfold counters modifyStore Store.setBreaker
  simp only [List.getElem?_set]
  by_cases hn : n = slot
  · subst hn
    rw [if_pos rfl, if_pos rfl]
    unfold Store.breaker at hb
    cases hget : s.shared.breakers[n]? with
    | none =>
        rw [if_neg (Nat.not_lt.mpr (List.getElem?_eq_none_iff.mp hget))]
        rfl
    | some b₀ =>
        rw [hget] at hb
        rw [if_pos (List.getElem?_eq_some_iff.mp hget).1]
        exact congrArg some hb
  · rw [if_neg hn, if_neg hn]

theorem counters_askBreaker (slot : Nat) (settings : BreakerSettings) (n : Nat)
    (s : Workplace β ξ ζ τ) : counters slot (askBreaker settings n s).2 = counters slot s := by
  refine (counters_setBreaker (f := id)
    (Breaker.counts_permit settings s.now (s.shared.breaker n))).trans ?_
  rw [Option.map_id]
  exact ite_self _

variable [Balancer β] {c : Custom β ξ ζ τ} {slot : Nat}

/-- What the breaker at a place has counted changes when it hears of an attempt. -/
def Custom.Keep.counters (hc : c.Keep (counters slot)) :
    Account c.handlers (Option (Nat × Nat)) where
  view := Builtin.counters slot
  told m a x := if m.2.guards slot then x.map (Breaker.count a) else x
  seen _ _ x := x
  missed _ _ x := x
  start _ x := x
  finish _ _ x := x
  view_onRequest := hc.view_onRequest (counters_askBreaker slot) (fun _ _ _ => rfl)
  view_onResponse := by
    rintro ⟨name, ⟨settings, n⟩ | n | x⟩ r a s
    · refine (counters_setBreaker (f := Breaker.count a)
        (Breaker.counts_observe settings s.now a (s.shared.breaker n))).trans ?_
      simp [Middleware.guards]
    · rfl
    · exact hc.onResponse (name, x) r a s
  view_seeRequest := hc.view_seeRequest
  view_seeResponse := by
    rintro ⟨name, location | z⟩ r a s
    · rfl
    · exact hc.seeResponse (name, z) r a s
  view_seeFailure := by
    rintro ⟨name, location | z⟩ r e s
    · rfl
    · exact hc.seeFailure (name, z) r e s
  view_pick _ := rfl
  view_draws _ _ := rfl
  view_startAttempt _ _ := rfl
  view_finishAttempt _ _ _ := rfl

/-- The breaker hears once of every attempt that it let pass. Of one that was intercepted it
hears, if it ran, but that counts for nothing. -/
theorem Custom.Keep.tell_counters (hc : c.Keep (Builtin.counters slot))
    {t : Trial (Middleware ξ) (Observer ζ)} {a : Attempt}
    (ha : a.intercepted = true ∨ guardians slot t.ran = 1) (x : Option (Nat × Nat)) :
    hc.counters.tell t a x = x.map (Breaker.count a) := by
  have htell : hc.counters.tell t a x =
      (Option.map (Breaker.count a))^[guardians slot t.ran] x := by
    unfold Account.tell Custom.Keep.counters guardians
    simp only [List.foldl_fixed, foldl_if]
  rw [htell]
  rcases ha with ha | ha
  · have hid : Breaker.count a = id := by
      funext x
      exact if_pos ha
    rw [hid, Option.map_id, Function.iterate_id]
  · rw [ha, Function.iterate_one]

theorem Custom.Keep.post_counters (hc : c.Keep (Builtin.counters slot))
    {N : Norm (Middleware ξ) (Observer ζ)} (hpassed : ∀ t, N.passed t → guardians slot t.ran = 1)
    {d : Deed (Middleware ξ) (Observer ζ)} (hd : d.Meets N) (x : Option (Nat × Nat)) :
    hc.counters.post d x = d.attempt?.elim x fun a => x.map (Breaker.count a) := by
  cases hd with
  | opened watching => rfl
  | sent begun passed => rfl
  | landed begun passed endpoint reached answer =>
      exact hc.tell_counters (.inr (hpassed _ passed)) x
  | intercepted begun endpoint intercepted => exact hc.tell_counters (.inl intercepted) x
  | unsendable begun passed endpoint unanswered outcome =>
      exact hc.tell_counters (.inr (hpassed _ passed)) x
  | unplaced watching => exact List.foldl_fixed _
  | brokeDown watching => rfl

theorem Custom.Keep.balance_counters (hc : c.Keep (Builtin.counters slot))
    {N : Norm (Middleware ξ) (Observer ζ)} (hpassed : ∀ t, N.passed t → guardians slot t.ran = 1)
    {ds : List (Deed (Middleware ξ) (Observer ζ))} (hds : ∀ d ∈ ds, d.Meets N)
    (x : Option (Nat × Nat)) :
    hc.counters.balance ds x =
      x.map fun x => (ds.filterMap Deed.attempt?).foldl (fun x a => Breaker.count a x) x := by
  unfold Account.balance
  induction ds generalizing x with
  | nil => exact Option.map_id'.symm
  | cons d ds ih =>
      obtain ⟨hd, hds⟩ := List.forall_mem_cons.mp hds
      rw [List.foldl_cons, hc.post_counters hpassed hd, ih hds, List.filterMap_cons]
      cases d.attempt? with
      | none => rfl
      | some a => simp only [Option.elim_some, Option.map_map, List.foldl_cons, Function.comp_def]

end Builtin

/-! ## The attempts of all endpoints -/

theorem sum_indicator {α : Type} (p : α → Bool) (xs : List α) :
    (xs.map fun x => if p x then 1 else 0).sum = xs.countP p := by
  induction xs with
  | nil => rfl
  | cons x xs ih =>
      rw [List.map_cons, List.sum_cons, List.countP_cons, ih]
      omega

/-- An attempt belongs to one endpoint. -/
theorem countP_isOn {ms : List Member} (hms : (ms.map Member.id).Nodup) {m : Member} (hm : m ∈ ms)
    {a : Attempt} (ha : a.endpoint = m.endpoint) : ms.countP (a.isOn ·) = 1 := by
  have hcount : ms.countP (a.isOn ·) = (ms.map Member.id).count m.id := by
    rw [List.count_eq_countP, List.countP_map]
    refine List.countP_congr fun u _ => ?_
    unfold Attempt.isOn
    rw [ha, decide_eq_true_eq, Function.comp_apply, beq_iff_eq]
    exact eq_comm
  rw [hcount]
  exact List.count_eq_one_of_mem hms (List.mem_map_of_mem hm)

/-- So the counts of all endpoints make up the number of attempts. -/
theorem sum_countP_isOn {ms : List Member} (hms : (ms.map Member.id).Nodup) {as : List Attempt}
    (has : ∀ a ∈ as, ∃ m ∈ ms, a.endpoint = m.endpoint) (p : Attempt → Bool) :
    (ms.map fun m => as.countP fun a => a.isOn m && p a).sum = as.countP p := by
  induction as with
  | nil => simp
  | cons a as ih =>
      obtain ⟨⟨m, hm, ha⟩, has⟩ := List.forall_mem_cons.mp has
      simp only [List.countP_cons, List.sum_map_add, ih has]
      congr 1
      cases hp : p a with
      | false => simp
      | true =>
          simp only [Bool.and_true, if_true]
          exact (sum_indicator (a.isOn ·) ms).trans (countP_isOn hms hm ha)

/-! ## What the breaker has learned -/

/-- The answer of a backend is a response, or the exchange with it broke. -/
def Outcome.FromBackend (o : Outcome) : Prop :=
  ∀ e, o = .error e → e.isTransport = true

variable {ξ ζ τ : Type}

/-- What the breaker at a place in the store has counted, and what the endpoints have. An attempt
without a request is all that tells them apart. -/
structure Learns {β : Type} (slot : Nat) (ms : List Member)
    (T : Traffic β (Middleware ξ) (Observer ζ) (Store τ)) : Prop where
  total : (T.site.shared.breaker slot).total =
    (ms.map fun m => (T.site.ledger.get m.serial).total).sum + T.unsendable.length
  failed : (T.site.shared.breaker slot).failed =
    (ms.map fun m => (T.site.ledger.get m.serial).failed).sum
  agrees_iff : (T.site.shared.breaker slot).total =
    (ms.map fun m => (T.site.ledger.get m.serial).total).sum ↔ T.unsendable = []
  /-- To hear of an attempt that a middleware answered changes nothing. -/
  intercepted : ∀ a ∈ T.attempts, a.intercepted = true →
    ∀ (s : BreakerSettings) now (b : Breaker), b.observe s now a = b
  /-- An attempt whose request could not be made is taken for a success. -/
  unsendable : ∀ a ∈ T.unsendable, ∀ (s : BreakerSettings) now (b : Breaker),
    b.observe s now a = b.success s

theorem Breaker.isFailure_of_fromBackend {a : Attempt} (ha : a.outcome.FromBackend) :
    isFailure a = !a.outcome.isSuccess := by
  unfold isFailure Outcome.isSuccess
  cases ho : a.outcome with
  | ok r => simp
  | error e => simpa using ha e ho

theorem Breaker.not_isFailure_of_internal {a : Attempt} {message : String}
    (ha : a.outcome = .error (.internal message)) : isFailure a = false := by
  unfold isFailure
  rw [ha]
  rfl

namespace Builtin

variable {β : Type} [Balancer β] {c : Custom β ξ ζ τ} {slot : Nat}

/-- What is counted of attempts, and by whom. -/
def counting (slot : Nat) (s : Workplace β ξ ζ τ) :
    (Ledger × Option (Nat × Nat)) × List Member × Nat :=
  ((s.ledger, counters slot s), (Balancer.members s.pool, guardians slot s.middlewares.entries))

/-- The endpoints and the breaker stay the same. -/
def Custom.Keep.guard (hc : c.Keep (counting slot)) (hβ : Balancer.Lawful β) :
    Account c.handlers (List Member × Nat) :=
  ((hc.comp Prod.snd).handlers fun _ _ => rfl).still
    (fun s => congrArg (·, guardians slot s.middlewares.entries) (hβ.members_pick s))
    (fun _ _ => rfl) (fun _ _ => rfl) (fun _ _ _ => rfl)

end Builtin

/-- Attempts are made at these endpoints, behind one breaker at this place. -/
def countNorm (slot : Nat) (ms : List Member) : Norm (Middleware ξ) (Observer ζ) where
  begun t := t.member ∈ ms
  passed t := guardians slot t.ran = 1
  watching _ := True
  answer := Outcome.FromBackend

section

variable {β : Type} [Balancer β] {c : Custom β ξ ζ τ} {slot : Nat}

theorem countNorm_rulesAt (hc : c.Keep (counting slot)) (hβ : Balancer.Lawful β)
    {ms : List Member} {s : Workplace β ξ ζ τ} (hs : (hc.guard hβ).view s = (ms, 1)) :
    (countNorm slot ms).RulesAt c.handlers s := by
  constructor
  · intro v t ht
    have hannounce := (hc.guard hβ).view_announce v.request s
    have hmembers : Balancer.members (announce c.handlers v.request s).pool = ms :=
      congrArg Prod.fst (hannounce.trans hs)
    exact hmembers ▸ hβ.mem_selectEndpoint ht.member
  · intro v t ht
    have hopening := (hc.guard hβ).view_opening v s
    have hguardians : guardians slot (v.opening c.handlers s).2.middlewares.entries = 1 :=
      congrArg Prod.snd (hopening.trans hs)
    show guardians slot t.ran = 1
    rw [ht.ran]
    exact hguardians
  · trivial

omit [Balancer β] in
/-- Of the attempts that were not intercepted, those that were sent may have failed. -/
theorem countP_attempts {N : Norm (Middleware ξ) (Observer ζ)}
    (hN : ∀ o, N.answer o → o.FromBackend)
    {T : Traffic β (Middleware ξ) (Observer ζ) (Store τ)} (hT : T.Meets N) :
    T.attempts.countP (fun a => !a.intercepted) = T.landings.length + T.unsendable.length ∧
    T.attempts.countP (fun a => !a.intercepted && Breaker.isFailure a) =
      T.landings.countP fun a => !a.outcome.isSuccess := by
  have hperm : T.attempts.Perm
      (T.landings ++ T.unsendable ++ T.attempts.filter (·.intercepted)) := attempts_perm hT.deeds
  have hlanding : ∀ a ∈ T.landings, a.intercepted = false ∧ a.outcome.FromBackend := by
    intro a ha
    obtain ⟨hreached, hanswer, -⟩ := hT.of_landing ha
    exact ⟨hreached, hN _ hanswer⟩
  have hunsendable : ∀ a ∈ T.unsendable, a.intercepted = false ∧ Breaker.isFailure a = false := by
    intro a ha
    obtain ⟨hunanswered, message, houtcome⟩ := hT.of_unsendable ha
    exact ⟨hunanswered, Breaker.not_isFailure_of_internal houtcome⟩
  have hintercepted : ∀ p : Attempt → Bool,
      (T.attempts.filter (·.intercepted)).countP (fun a => !a.intercepted && p a) = 0 := by
    intro p
    refine List.countP_eq_zero.mpr fun a ha => ?_
    rw [(List.mem_filter.mp ha).2]
    simp
  constructor
  · have hnone := hintercepted fun _ => true
    simp only [Bool.and_true] at hnone
    have hall : T.landings.countP (fun a => !a.intercepted) = T.landings.length :=
      List.countP_eq_length.mpr fun a ha => by simp [(hlanding a ha).1]
    have hall' : T.unsendable.countP (fun a => !a.intercepted) = T.unsendable.length :=
      List.countP_eq_length.mpr fun a ha => by simp [(hunsendable a ha).1]
    refine (hperm.countP_eq _).trans ?_
    rw [List.countP_append, List.countP_append, hall, hall', hnone, Nat.add_zero]
  · have hsent : T.landings.countP (fun a => !a.intercepted && Breaker.isFailure a) =
        T.landings.countP fun a => !a.outcome.isSuccess := by
      refine List.countP_congr fun a ha => ?_
      obtain ⟨hreached, hanswer⟩ := hlanding a ha
      rw [hreached, Breaker.isFailure_of_fromBackend hanswer]
      simp
    have hunsent : T.unsendable.countP (fun a => !a.intercepted && Breaker.isFailure a) = 0 := by
      refine List.countP_eq_zero.mpr fun a ha => ?_
      rw [(hunsendable a ha).2]
      simp
    refine (hperm.countP_eq _).trans ?_
    rw [List.countP_append, List.countP_append, hsent, hunsent, hintercepted]
    rfl

/-- A breaker that has been there from the start has learned from all attempts that were sent,
and has taken those for successes whose request could not be made. -/
theorem learns_run (hβ : Balancer.Lawful β) (hc : c.Keep (counting slot)) (l : Location)
    {s : Workplace β ξ ζ τ} (hs : Enrolled (Balancer.members s.pool) s.ledger)
    (hzero : ∀ m ∈ Balancer.members s.pool, s.ledger.get m.serial = .zero)
    (hfresh : counters slot s = some (0, 0)) (hguard : guardians slot s.middlewares.entries = 1)
    {events : List (Traffic.Event β (Middleware ξ) (Observer ζ) (Store τ))}
    (hanswers : ∀ i o, .answer i o ∈ events → Outcome.FromBackend o)
    (hevents : ∀ f, .change f ∈ events → ∀ s, counting slot (f s) = counting slot s) :
    Learns slot (Balancer.members s.pool) ((Traffic.start s).run c.handlers l events) := by
  have hledger : c.Keep Site.ledger := hc.comp (·.1.1)
  have hcounters : c.Keep (counters slot) := hc.comp (·.1.2)
  have hstill : (hc.guard hβ).Still := Handlers.Keep.still_still _
  have hstart : (hc.guard hβ).view s = (Balancer.members s.pool, 1) :=
    congrArg (Balancer.members s.pool, ·) hguard
  have hrules : ∀ s', (hc.guard hβ).view s' = (hc.guard hβ).view s →
      (countNorm slot (Balancer.members s.pool)).RulesAt c.handlers s' := by
    intro s' hs'
    exact countNorm_rulesAt hc hβ (hs'.trans hstart)
  have hview : ∀ f, .change f ∈ events → ∀ s, (hc.guard hβ).view (f s) = (hc.guard hβ).view s :=
    fun f hf s => congrArg Prod.snd (hevents f hf s)
  have hmeets := Traffic.meets_run hstill l hrules hanswers hview
  have htally := Traffic.ledger_run (N := countNorm slot (Balancer.members s.pool))
    (hledger.handlers fun _ _ => rfl) hstill (fun _ ht => ht) l hs hzero hrules hanswers hview
    (fun f hf s => congrArg (·.1.1) (hevents f hf s))
  have hcounted := hcounters.counters.view_run l s fun f hf s => congrArg (·.1.2) (hevents f hf s)
  generalize (Traffic.start s).run c.handlers l events = T at hmeets htally hcounted ⊢
  have hbreaker : (T.site.shared.breaker slot).counts =
      (T.landings.length + T.unsendable.length,
        T.landings.countP fun a => !a.outcome.isSuccess) := by
    obtain ⟨htotal, hfailed⟩ := countP_attempts (fun _ h => h) hmeets
    have hlearned : counters slot T.site =
        some (T.attempts.foldl (fun x a => Breaker.count a x) (0, 0)) := by
      refine hcounted.trans ?_
      rw [hcounters.balance_counters (N := countNorm slot (Balancer.members s.pool))
        (fun _ h => h) hmeets.deeds]
      exact congrArg (Option.map _) hfresh
    rw [Breaker.count_foldl, htotal, hfailed, Nat.zero_add, Nat.zero_add] at hlearned
    exact breaker_of_counters hlearned
  have hmember : ∀ a ∈ T.landings, ∃ m ∈ Balancer.members s.pool, a.endpoint = m.endpoint := by
    intro a ha
    obtain ⟨-, -, t, ht, hendpoint⟩ := hmeets.of_landing ha
    exact ⟨t.member, ht, hendpoint⟩
  have hsum : ((Balancer.members s.pool).map fun m => (T.site.ledger.get m.serial).total).sum =
      T.landings.length := by
    have heach : ∀ m ∈ Balancer.members s.pool, (T.site.ledger.get m.serial).total =
        T.landings.countP fun a => a.isOn m && true := by
      intro m hm
      simp only [htally m hm, Traffic.tally, Bool.and_true]
    rw [List.map_congr_left heach, sum_countP_isOn hs.ids hmember fun _ => true, List.countP_true]
  have htotal := congrArg Prod.fst hbreaker
  constructor
  · rw [hsum]
    exact htotal
  · have heach : ∀ m ∈ Balancer.members s.pool, (T.site.ledger.get m.serial).failed =
        T.landings.countP fun a => a.isOn m && !a.outcome.isSuccess :=
      fun m hm => congrArg Tally.failed (htally m hm)
    rw [List.map_congr_left heach, sum_countP_isOn hs.ids hmember]
    exact congrArg Prod.snd hbreaker
  · rw [hsum, ← List.length_eq_zero_iff]
    refine (Eq.congr_left htotal).trans ?_
    exact Nat.add_eq_left
  · intro a _ hintercepted settings now b
    exact if_pos hintercepted
  · intro a ha settings now b
    obtain ⟨hunanswered, message, houtcome⟩ := hmeets.of_unsendable ha
    unfold Breaker.observe
    rw [hunanswered, Breaker.not_isFailure_of_internal houtcome]
    rfl

end

/-! ## Locations from settings -/

namespace LocationSettings

variable {s : LocationSettings} {metrics : Bool} {x : BreakerSettings} {slot : Nat}

theorem breaker_mem_guards {t : Store τ} {name : String}
    (hslot : (name, .breaker x slot) ∈ (s.guards t : List (String × Middleware ξ))) :
    s.breaker = some x ∧ slot = t.breakers.length := by
  unfold guards at hslot
  cases hbreaker : s.breaker <;> cases hlimit : s.limit <;>
    simp_all [Option.map]

theorem guardians_guards (t : Store τ) (hbreaker : s.breaker = some x) :
    guardians t.breakers.length (s.guards t : List (String × Middleware ξ)) = 1 := by
  unfold guards guardians
  rw [hbreaker]
  cases s.limit <;> simp [Middleware.guards]

theorem breakers_stock (t : Store τ) (hbreaker : s.breaker = some x) :
    (s.stock t).breakers = t.breakers ++ [Breaker.fresh] := by
  unfold stock
  rw [hbreaker]
  cases s.limit <;> rfl

/-- A breaker in a location that was built from settings has learned from all attempts that were
sent to its endpoints, and has taken those for successes whose request could not be made. -/
theorem learns_of_build {t t' : Store τ} {b : Branch Rotation ξ ζ}
    (hbuild : s.build metrics t = .ok (b, t')) {name : String}
    (hslot : (name, .breaker x slot) ∈ b.middlewares.entries) {c : Custom Rotation ξ ζ τ}
    (hc : c.Keep (counting slot)) (now : Nat) (draws : Draws)
    {events : List (Traffic.Event Rotation (Middleware ξ) (Observer ζ) (Store τ))}
    (hanswers : ∀ i o, .answer i o ∈ events → Outcome.FromBackend o)
    (hevents : ∀ f, .change f ∈ events → ∀ s, counting slot (f s) = counting slot s) :
    Learns slot b.pool.members
      ((Traffic.start (b.site now draws t')).run c.handlers b.location events) := by
  obtain ⟨hids, hb, ht'⟩ := eq_of_build hbuild
  have hentries : b.middlewares.entries = s.guards t := by rw [hb]; rfl
  obtain ⟨hbreaker, rfl⟩ := breaker_mem_guards (hentries ▸ hslot)
  refine learns_run Rotation.lawful hc b.location (s := b.site now draws t')
    (enrolled_branch hids hb) (fun m _ => zero_branch hb m.serial) ?_ ?_ hanswers hevents
  · have hstock := breakers_stock t hbreaker
    unfold counters Branch.site
    rw [ht', hstock, List.getElem?_concat_length]
    rfl
  · exact (congrArg (guardians _) hentries).trans (guardians_guards t hbreaker)

end LocationSettings

namespace Twins

/-- A location for two servers with a breaker. -/
def guarded : LocationSettings := { settings with breaker := some {} }

def guardedBranch : Branch Rotation Empty Empty := guarded.branch true { extra := () }

def guardedTraffic : Traffic Rotation (Middleware Empty) (Observer Empty) (Store Unit) :=
  (Traffic.start (guardedBranch.site 0 ⟨[]⟩ (guarded.stock { extra := () }))).run
    Custom.none.handlers guardedBranch.location rush

end Twins

theorem LocationSettings.learns_of_build_guarded :
    ((Twins.guarded.build true { extra := () } : Except Error (Branch Rotation Empty Empty × _)) =
        .ok (Twins.guardedBranch, Twins.guarded.stock { extra := () }) ∧
      ("circuit_breaker", .breaker {} 0) ∈ Twins.guardedBranch.middlewares.entries ∧
      (∀ i o, .answer i o ∈ Twins.rush → Outcome.FromBackend o) ∧
      ∀ f, .change f ∈ Twins.rush → ∀ s, counting 0 (f s) = counting 0 s) ∧
    Learns 0 Twins.guardedBranch.pool.members Twins.guardedTraffic ∧
    (Twins.guardedTraffic.site.shared.breaker 0).total = 2 ∧
    (Twins.guardedTraffic.site.shared.breaker 0).failed = 1 := by
  have hbuild : (Twins.guarded.build true { extra := () } :
      Except Error (Branch Rotation Empty Empty × Store Unit)) =
        .ok (Twins.guardedBranch, Twins.guarded.stock { extra := () }) :=
    build_of_nodup (by decide +kernel) (by decide +kernel) true _
  have hslot : ("circuit_breaker", .breaker {} 0) ∈ Twins.guardedBranch.middlewares.entries :=
    List.mem_cons_self
  have hanswers : ∀ i o, .answer i o ∈ Twins.rush → Outcome.FromBackend o := by
    intro i o ho e he
    rw [he] at ho
    simp [Twins.rush] at ho
  have hevents : ∀ f, .change f ∈ Twins.rush → ∀ s, counting 0 (f s) = counting 0 s := by
    intro f hf s
    rw [Twins.change_mem_rush hf]
    rfl
  refine ⟨⟨hbuild, hslot, hanswers, hevents⟩, ?_, by decide +kernel, by decide +kernel⟩
  exact learns_of_build hbuild hslot (Custom.none_keep _) 0 ⟨[]⟩ hanswers hevents

namespace Braces

/-- A location with a breaker for a server whose name cannot stand in a request. -/
def settings : LocationSettings where
  name := "api"
  endpoints := ["http://a\x7bb\x7d"]
  breaker := some {}

def branch : Branch Rotation Empty Empty := settings.branch true { extra := () }

/-- One request comes. -/
def traffic : Traffic Rotation (Middleware Empty) (Observer Empty) (Store Unit) :=
  (Traffic.start (branch.site 0 ⟨[]⟩ (settings.stock { extra := () }))).run
    Custom.none.handlers branch.location [.arrive Twins.request]

end Braces

/-- Nobody has been asked, and the breaker counts a success. -/
theorem learns_from_nobody :
    (Braces.settings.build true { extra := () } : Except Error (Branch Rotation Empty Empty × _)) =
        .ok (Braces.branch, Braces.settings.stock { extra := () }) ∧
    (Braces.traffic.flights.map fun
      | .finished _ (.error (.internal message)) => some message
      | _ => none) = [some "invalid uri character"] ∧
    Braces.traffic.landings = [] ∧
    (Braces.branch.pool.members.map fun m =>
      (Braces.traffic.site.ledger.get m.serial).total).sum = 0 ∧
    (Braces.traffic.site.shared.breaker 0).total = 1 ∧
    (Braces.traffic.site.shared.breaker 0).failed = 0 := by
  refine ⟨LocationSettings.build_of_nodup (by decide +kernel) (by decide +kernel) true _,
    by decide +kernel, by decide +kernel, by decide +kernel, by decide +kernel, by decide +kernel⟩

end Gateway
