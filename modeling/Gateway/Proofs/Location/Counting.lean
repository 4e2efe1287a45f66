import Gateway.Proofs.Location.Account

/-!
# Counting attempts

The ledger of a location counts, for each endpoint of a pool that stays the same, the requests
that wait for it and the attempts that it has ended.
-/

namespace Gateway

variable {β μ ο σ α : Type} [Balancer β]

/-- A pool gives endpoints of its own and stays the same by that. -/
structure Balancer.Lawful (β : Type) [Balancer β] : Prop where
  members_next : ∀ p : β, Balancer.members (Balancer.next p).2 = Balancer.members p
  mem_next : ∀ (p : β) (m : Member), (Balancer.next p).1 = .ok m → m ∈ Balancer.members p

/-- The endpoints differ, and each has its own place in the ledger. -/
structure Enrolled (ms : List Member) (l : Ledger) : Prop where
  ids : (ms.map Member.id).Nodup
  serials : (ms.map Member.serial).Nodup
  below : ∀ m ∈ ms, m.serial < l.next

/-- An attempt was made at this endpoint. -/
def Attempt.isOn (m : Member) (a : Attempt) : Bool := a.endpoint.id = m.id

/-- The counts that an endpoint should have. -/
def Traffic.tally (m : Member) (T : Traffic β μ ο σ) : Tally where
  active := T.flights.countP (·.awaits m)
  total := T.landings.countP (·.isOn m)
  failed := T.landings.countP fun a => a.isOn m && !a.outcome.isSuccess

/-! ## Selection -/

theorem Balancer.Lawful.members_pick (hβ : Balancer.Lawful β) (s : Site β μ ο σ) :
    Balancer.members s.pick.2.pool = Balancer.members s.pool :=
  hβ.members_next s.pool

theorem Balancer.Lawful.mem_pick (hβ : Balancer.Lawful β) {s s' : Site β μ ο σ} {m : Member}
    (hpick : s.pick = (.ok m, s')) : m ∈ Balancer.members s.pool :=
  hβ.mem_next s.pool m (congrArg Prod.fst hpick)

theorem Balancer.Lawful.mem_askAgain (hβ : Balancer.Lawful β) {tried : List String} {n : Nat}
    {m m' : Member} {s : Site β μ ο σ} (hm : m ∈ Balancer.members s.pool)
    (hask : (askAgain tried n m s).1 = .ok m') : m' ∈ Balancer.members s.pool := by
  induction n generalizing m s with
  | zero => exact Except.ok.inj hask ▸ hm
  | succ n ih =>
      have hmembers := hβ.members_pick s
      unfold askAgain at hask
      split at hask
      · rcases hpick : s.pick with ⟨e | u, s'⟩ <;> rw [hpick] at hask hmembers
        · cases hask
        · have hu := hβ.mem_pick hpick
          rw [← hmembers] at hu ⊢
          exact ih hu hask
      · exact Except.ok.inj hask ▸ hm

theorem Balancer.Lawful.mem_selectEndpoint (hβ : Balancer.Lawful β) {tried : List String}
    {m : Member} {s : Site β μ ο σ} (hselect : (selectEndpoint tried s).1 = .ok m) :
    m ∈ Balancer.members s.pool := by
  have hmembers := hβ.members_pick s
  unfold selectEndpoint at hselect
  rcases hpick : s.pick with ⟨e | u, s'⟩ <;> rw [hpick] at hselect hmembers
  · cases hselect
  have hu : u ∈ Balancer.members s'.pool := hmembers ▸ hβ.mem_pick hpick
  rw [← hmembers]
  simp only [] at hselect
  split at hselect
  · exact Except.ok.inj hselect ▸ hu
  · rcases hask : askAgain tried (Balancer.members s'.pool).length u s' with ⟨e | w, s''⟩ <;>
      rw [hask] at hselect
    · cases hselect
    · have hw : w ∈ Balancer.members s'.pool := hβ.mem_askAgain hu (congrArg Prod.fst hask)
      simp only [] at hselect
      split at hselect
      · -- All have been asked for, and one that was not tried is taken if there is any.
        rw [← Except.ok.inj hselect]
        cases hfind : (Balancer.members s'.pool).find? fun u => !tried.contains u.id with
        | none => exact hw
        | some x => exact List.mem_of_find?_eq_some hfind
      · exact Except.ok.inj hselect ▸ hw

/-! ## The ledger -/

variable {h : Handlers β μ ο σ}

/-- Sending and landing are counted for their endpoints. -/
def Handlers.Keep.ledger (hk : h.Keep Site.ledger) : Account h Ledger :=
  hk.account (fun m l => l.modify m.serial Tally.start)
    (fun m success l => l.modify m.serial (Tally.finish success))
    (fun _ => rfl) (fun _ _ => rfl) (fun _ _ => rfl) (fun _ _ _ => rfl)

theorem Handlers.Keep.post_ledger (hk : h.Keep Site.ledger) (d : Deed μ ο) (l : Ledger) :
    hk.ledger.post d l =
      match d with
      | .sent t => l.modify t.member.serial Tally.start
      | .ended t a true => l.modify t.member.serial (Tally.finish a.outcome.isSuccess)
      | _ => l :=
  hk.post_account d l

theorem Enrolled.modify {ms : List Member} {l : Ledger} (hl : Enrolled ms l) (serial : Nat)
    (f : Tally → Tally) : Enrolled ms (l.modify serial f) := by
  refine ⟨hl.ids, hl.serials, fun m hm => ?_⟩
  have hnext : (l.modify serial f).next = l.next := by
    simp [Ledger.modify, Ledger.next]
  rw [hnext]
  exact hl.below m hm

theorem Enrolled.get_modify {ms : List Member} {l : Ledger} (hl : Enrolled ms l) {m u : Member}
    (hm : m ∈ ms) (hu : u ∈ ms) (f : Tally → Tally) :
    (l.modify u.serial f).get m.serial = if u = m then f (l.get m.serial) else l.get m.serial := by
  rw [Ledger.get_modify l _ _ _ (hl.below u hu)]
  have hserial : u.serial = m.serial ↔ u = m :=
    ⟨fun heq => List.inj_on_of_nodup_map hl.serials hu hm heq, congrArg Member.serial⟩
  simp only [hserial]

theorem Enrolled.isOn_iff {ms : List Member} {l : Ledger} (hl : Enrolled ms l) {m u : Member}
    (hm : m ∈ ms) (hu : u ∈ ms) {a : Attempt} (ha : a.endpoint = u.endpoint) :
    a.isOn m = true ↔ u = m := by
  unfold Attempt.isOn
  rw [ha, decide_eq_true_eq]
  exact ⟨fun heq => List.inj_on_of_nodup_map hl.ids hu hm heq, fun heq => heq ▸ rfl⟩

namespace Traffic

theorem landings_resumed (l : Location) (i : Nat) (v : Visit) (T : Traffic β μ ο σ) :
    (T.resumed h l i v).landings = T.landings := by
  have hnone : (v.deeds h l T.site).filterMap Deed.landing? = [] := by
    unfold Visit.deeds
    cases (v.round h l T.site).1 <;> rfl
  rw [landings, done_resumed, List.filterMap_append, hnone, List.append_nil]
  rfl

omit [Balancer β] in
theorem landings_landed (l : Location) (i : Nat) (t : Trial μ ο) (o : Outcome)
    (T : Traffic β μ ο σ) :
    (T.landed h l i t o).landings = T.landings ++ [t.attempt o false T.site.now] := by
  rw [landings, done_landed, List.filterMap_append]
  rfl

theorem awaits_resumed (l : Location) {i : Nat} {v : Visit} {nanos : Option Nat}
    {T : Traffic β μ ο σ} (hflight : T.flights[i]? = some (.resting v nanos)) (m : Member) :
    (T.resumed h l i v).flights.countP (·.awaits m) =
      T.flights.countP (·.awaits m) +
        if (v.round h l T.site).1.trial?.any (·.member = m) then 1 else 0 := by
  obtain ⟨hi, hget⟩ := List.getElem?_eq_some_iff.mp hflight
  rw [flights_resumed, List.countP_set hi, hget]
  simp only [Flight.awaits, trial?_resume]
  rfl

omit [Balancer β] in
theorem awaits_landed (l : Location) {i : Nat} {t : Trial μ ο} {out : Outbound} (o : Outcome)
    {T : Traffic β μ ο σ} (hflight : T.flights[i]? = some (.sending t out)) (m : Member) :
    (T.landed h l i t o).flights.countP (·.awaits m) =
      T.flights.countP (·.awaits m) - if t.member = m then 1 else 0 := by
  obtain ⟨hi, hget⟩ := List.getElem?_eq_some_iff.mp hflight
  rw [flights_landed, List.countP_set hi, hget]
  simp only [Flight.awaits, trial?_land]
  simp [Flight.trial?]

/-- A round counts one more request that waits for an endpoint, if it sends one there. -/
theorem ledger_resumed (hk : h.Keep Site.ledger) {N : Norm μ ο} {ms : List Member}
    (hN : ∀ t, N.begun t → t.member ∈ ms) (l : Location) (i : Nat) (v : Visit)
    {T : Traffic β μ ο σ} (hrules : N.RulesAt h T.site) (hl : Enrolled ms T.site.ledger) :
    Enrolled ms (T.resumed h l i v).site.ledger ∧
      ∀ m ∈ ms, (T.resumed h l i v).site.ledger.get m.serial =
        if (v.round h l T.site).1.trial?.any (·.member = m) then
          (T.site.ledger.get m.serial).start
        else T.site.ledger.get m.serial := by
  have hview : (T.resumed h l i v).site.ledger =
      hk.ledger.balance (v.deeds h l T.site) T.site.ledger := hk.ledger.view_resume v T.site
  have hround := v.round_of h l T.site
  rw [hview]
  unfold Visit.deeds Account.balance
  simp only [hk.post_ledger]
  generalize (v.round h l T.site).1 = round at hround ⊢
  cases hround with
  | unplaced => exact ⟨hl, fun _ _ => rfl⟩
  | brokeDown => exact ⟨hl, fun _ _ => rfl⟩
  | intercepted begun => exact ⟨hl, fun _ _ => rfl⟩
  | unsendable passed => exact ⟨hl, fun _ _ => rfl⟩
  | sent passed =>
      have hmem := hN _ (hrules.begun passed.toBegun)
      refine ⟨hl.modify _ _, fun m hm => ?_⟩
      simp [Round.deeds, Round.trial?, hl.get_modify hm hmem]

/-- The answer of an endpoint counts one attempt more that it ended. -/
theorem ledger_landed (hk : h.Keep Site.ledger) {ms : List Member} (l : Location) (i : Nat)
    {t : Trial μ ο} (ht : t.member ∈ ms) (o : Outcome) {T : Traffic β μ ο σ}
    (hl : Enrolled ms T.site.ledger) :
    Enrolled ms (T.landed h l i t o).site.ledger ∧
      ∀ m ∈ ms, (T.landed h l i t o).site.ledger.get m.serial =
        if t.member = m then (T.site.ledger.get m.serial).finish o.isSuccess
        else T.site.ledger.get m.serial := by
  have hview : (T.landed h l i t o).site.ledger =
      T.site.ledger.modify t.member.serial (Tally.finish o.isSuccess) := by
    refine (hk.ledger.view_land t o T.site).trans ?_
    exact hk.post_ledger _ _
  rw [hview]
  exact ⟨hl.modify _ _, fun m hm => hl.get_modify hm ht _⟩

/-- At every moment the counts of an endpoint are those that it should have. -/
theorem ledger_run (hk : h.Keep Site.ledger) {A : Account h α} (hA : A.Still) {N : Norm μ ο}
    {ms : List Member} (hN : ∀ t, N.begun t → t.member ∈ ms) (l : Location) {s : Site β μ ο σ}
    (hs : Enrolled ms s.ledger) (hzero : ∀ m ∈ ms, s.ledger.get m.serial = .zero)
    {events : List (Event β μ ο σ)} (hrules : ∀ s', A.view s' = A.view s → N.RulesAt h s')
    (hanswers : ∀ i o, .answer i o ∈ events → N.answer o)
    (hview : ∀ f, .change f ∈ events → ∀ s, A.view (f s) = A.view s)
    (hledger : ∀ f, .change f ∈ events → ∀ s, (f s).ledger = s.ledger) :
    ∀ m ∈ ms, ((start s).run h l events).site.ledger.get m.serial =
      ((start s).run h l events).tally m := by
  have hrun := norm_induction hA l hrules hanswers hview
    (P := fun T => Enrolled ms T.site.ledger ∧
      ∀ m ∈ ms, T.site.ledger.get m.serial = T.tally m) ⟨hs, hzero⟩ ?_ ?_ ?_ ?_
  · exact hrun.2.2
  · rintro T r ⟨hl, hT⟩
    refine ⟨hl, fun m hm => (hT m hm).trans ?_⟩
    have hsame : (T.enter l r).landings = T.landings := rfl
    simp [tally, hsame, Flight.awaits, Flight.trial?]
  · rintro T i v nanos ⟨hl, hT⟩ - hrules hflight
    obtain ⟨hl', hget⟩ := ledger_resumed hk hN l i v hrules hl
    refine ⟨hl', fun m hm => ?_⟩
    rw [hget m hm, hT m hm, tally, tally, awaits_resumed l hflight, landings_resumed]
    split <;> simp [Tally.start]
  · rintro T i t out o ⟨hl, hT⟩ hmeets hflight
    have ht := hN t (hmeets.flights _ (List.mem_of_getElem? hflight) t rfl).1
    obtain ⟨hl', hget⟩ := ledger_landed hk l i ht o hl
    refine ⟨hl', fun m hm => ?_⟩
    have hon : (t.attempt o false T.site.now).isOn m = decide (t.member = m) :=
      Bool.eq_iff_iff.mpr ((hl.isOn_iff hm ht rfl).trans decide_eq_true_iff.symm)
    have houtcome : (t.attempt o false T.site.now).outcome = o := rfl
    rw [hget m hm, hT m hm, tally, tally, awaits_landed l o hflight, landings_landed,
      List.countP_append, List.countP_append]
    simp only [List.countP_singleton, hon, houtcome]
    by_cases hm' : t.member = m <;> cases hsuccess : o.isSuccess <;>
      simp [hm', Tally.finish]
  · rintro T f ⟨hl, hT⟩ hf
    have hsame := hledger f hf T.site
    exact ⟨hsame ▸ hl, fun m hm => (congrArg (·.get m.serial) hsame).trans (hT m hm)⟩

end Traffic

end Gateway
