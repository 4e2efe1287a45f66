import Gateway.Proofs.Limit.Exact

/-!
# How many clients are tracked

A bucket that is left by a sweep is not full, so its client has asked for something not long
before. Up to the next sweep fewer than 1024 requests are answered, and each of them adds one
client at most. So the table is bounded by recent traffic, however many clients there have
ever been.
-/

namespace Gateway

/-- The last use of a bucket that is not full is no longer ago than it takes to fill one. -/
theorem Bucket.seconds_le_of_not_isFull {l : Limit ℚ} {b : Bucket ℚ} {now : ℕ}
    (hrate : 0 < l.rate) (hb : l.Holds b.tokens) (h : b.isFull l now = false) :
    Amount.seconds now ≤ Amount.seconds b.updated + l.burst / l.rate := by
  have hgrown : b.tokens + Amount.seconds (now - b.updated) * l.rate < l.burst :=
    not_le.mp (of_decide_eq_false h)
  have hquiet : Amount.seconds (now - b.updated) ≤ l.burst / l.rate := by
    rw [le_div_iff₀ hrate]
    linarith [hb.1]
  rcases le_total b.updated now with hle | hle
  · rw [seconds_sub hle] at hquiet
    linarith
  · linarith [seconds_mono hle, (seconds_nonneg _).trans hquiet]

namespace Limiter

variable {ρ : Type}

/-! ## Sweeps -/

section Sweeps

variable {α : Type} [Amount α]

/-- The number of requests that were answered. -/
def answered (rs : List Reply) : ℕ := rs.countP (·.answer ≠ .undefined)

/-- The last of the events drops the full buckets: a sweep on demand, or every 1024th request
that is answered. -/
def Watch.endsInSweep (key : ρ → String) (w : Watch α) (es : List (Event ρ)) : Bool :=
  match es.getLast? with
  | some .sweep => true
  | some (.request _) =>
      (w.replies key es).getLast?.any (·.answer ≠ .undefined) &&
        1024 ∣ answered (w.replies key es)
  | some (.wait _) => false
  | none => false

/-- The events up to the most recent sweep, if there was one. -/
def Watch.lastSweep? (key : ρ → String) (w : Watch α) (es : List (Event ρ)) :
    Option (List (Event ρ)) :=
  (es.inits.filter (w.endsInSweep key)).getLast?

theorem Watch.lastSweep?_concat (key : ρ → String) (w : Watch α) (es : List (Event ρ))
    (e : Event ρ) :
    w.lastSweep? key (es ++ [e]) =
      if w.endsInSweep key (es ++ [e]) then some (es ++ [e]) else w.lastSweep? key es := by
  have hinits : (es ++ [e]).inits = es.inits ++ [es ++ [e]] := by
    rw [List.inits_append]
    simp
  unfold lastSweep?
  rw [hinits, List.filter_append]
  by_cases h : w.endsInSweep key (es ++ [e])
  · rw [if_pos h, List.filter_cons_of_pos h, List.filter_nil, List.getLast?_concat]
  · rw [if_neg h, List.filter_cons_of_neg h, List.filter_nil, List.append_nil]

theorem answered_concat (rs : List Reply) (r : Reply) :
    answered (rs ++ [r]) = answered rs + if r.answer = .undefined then 0 else 1 := by
  unfold answered
  rw [List.countP_append, List.countP_singleton]
  by_cases h : r.answer = .undefined <;> simp [h]

theorem Watch.endsInSweep_request (key : ρ → String) (w : Watch α) (es : List (Event ρ)) (r : ρ) :
    w.endsInSweep key (es ++ [.request r]) = true ↔
      ((w.run key es).limiter.request (w.run key es).now (key r)).1 ≠ .undefined ∧
        1024 ∣ answered (w.replies key es) + 1 := by
  unfold endsInSweep
  rw [List.getLast?_concat, replies_concat]
  simp only [reply?, Option.toList_some, List.getLast?_concat, Option.any_some, answered_concat,
    Bool.and_eq_true, decide_eq_true_eq]
  refine and_congr_right fun h => ?_
  rw [if_neg h]

end Sweeps

/-! ## Clients of late -/

variable {l : Limit ℚ}

/-- A limiter that has counted its replies, and whose buckets are each from one of them. -/
structure Traced (l : Limit ℚ) (w : Watch ℚ) (rs : List Reply) : Prop where
  mirrors : ∃ shelf, Mirrors l l.Holds shelf w
  requests : w.limiter.requests = answered rs
  asked : ∀ e ∈ w.limiter.buckets, ∃ r ∈ rs, r.client = e.1 ∧ r.time = e.2.updated

variable {w : Watch ℚ} {rs : List Reply}

theorem Traced.limit_eq (h : Traced l w rs) : w.limiter.limit = l :=
  h.mirrors.elim fun _ hmirrors => hmirrors.limit_eq

theorem Traced.nodup (h : Traced l w rs) : w.limiter.clients.Nodup :=
  h.mirrors.elim fun _ hmirrors => hmirrors.nodup

theorem Traced.holds (h : Traced l w rs) {e : String × Bucket ℚ} (he : e ∈ w.limiter.buckets) :
    l.Holds e.2.tokens :=
  h.mirrors.elim fun _ hmirrors => hmirrors.sound_of_mem he

theorem mem_sweep {l : Limiter ℚ} {now : ℕ} {e : String × Bucket ℚ}
    (h : e ∈ (l.sweep now).buckets) : e ∈ l.buckets ∧ e.2.isFull l.limit now = false := by
  simpa [sweep] using h

/-- The bucket that is put back is from the reply that is given, the others are as they were. -/
theorem Traced.asked_request (h : Traced l w rs) (client : String) {e : String × Bucket ℚ}
    (he : e ∈ store client (w.limiter.served w.now client).2 w.limiter.buckets)
    (answer : Admission) :
    ∃ r ∈ rs ++ [⟨w.now, client, answer⟩], r.client = e.1 ∧ r.time = e.2.updated := by
  rcases mem_store he with rfl | hold
  · exact ⟨_, List.mem_concat_self, rfl, (Bucket.updated_acquire _ _ _).symm⟩
  · obtain ⟨r, hr, hsame⟩ := h.asked e hold
    exact ⟨r, List.mem_append_left _ hr, hsame⟩

theorem Traced.step (h : Traced l w rs) (hregular : l.Regular l.Holds) (key : ρ → String)
    (e : Event ρ) : Traced l (w.step key e) (rs ++ (w.reply? key e).toList) := by
  have hmirrors : ∃ shelf, Mirrors l l.Holds shelf (w.step key e) := by
    obtain ⟨shelf, hw⟩ := h.mirrors
    obtain ⟨shelf', hw', -⟩ := hw.step hregular key e
    exact ⟨shelf', hw'⟩
  cases e with
  | request r =>
      obtain ⟨stored, -, hbuckets, hcase⟩ := request_cases w.now (key r) w.limiter
      refine ⟨hmirrors, ?_, fun e he => ?_⟩
      · show (w.limiter.request w.now (key r)).2.requests =
          answered (rs ++ [⟨w.now, key r, (w.limiter.request w.now (key r)).1⟩])
        rw [answered_concat, ← h.requests]
        rcases hcase with ⟨hanswer, hrequests, hlimiter⟩ | ⟨hanswer, hrequests, hlimiter⟩
        · rw [hlimiter, hrequests, if_pos hanswer, Nat.add_zero]
        · rw [hlimiter, if_neg hanswer, ← hrequests]
          split <;> rfl
      · have hstored : e ∈ stored.buckets := by
          change e ∈ (w.limiter.request w.now (key r)).2.buckets at he
          rcases hcase with ⟨-, -, hlimiter⟩ | ⟨-, -, hlimiter⟩
          · exact hlimiter ▸ he
          · rw [hlimiter] at he
            split at he
            · exact (mem_sweep he).1
            · exact he
        exact h.asked_request (key r) (hbuckets ▸ hstored) _
  | sweep =>
      rw [show w.reply? key .sweep = none from rfl, Option.toList_none, List.append_nil]
      exact ⟨hmirrors, h.requests, fun e he => h.asked e (mem_sweep he).1⟩
  | wait nanos =>
      rw [show w.reply? key (.wait nanos) = none from rfl, Option.toList_none, List.append_nil]
      exact ⟨hmirrors, h.requests, h.asked⟩

theorem traced_run (hregular : l.Regular l.Holds) (key : ρ → String) (start : ℕ)
    (es : List (Event ρ)) :
    Traced l ((Watch.mk (ofLimit l) start).run key es)
      ((Watch.mk (ofLimit l) start).replies key es) := by
  induction es using List.reverseRecOn with
  | nil => exact ⟨⟨_, mirrors_ofLimit l l.Holds start⟩, rfl, nofun⟩
  | append_singleton es e ih =>
      rw [Watch.run_concat, Watch.replies_concat]
      exact ih.step hregular key e

/-! ## What a sweep leaves -/

/-- The clients whose requests are no longer ago than it takes to fill a bucket. -/
def recent (l : Limit ℚ) (now : ℕ) (rs : List Reply) : Finset String :=
  ((rs.filter fun r => Amount.seconds now ≤ Amount.seconds r.time + l.burst / l.rate).map
    (·.client)).toFinset

/-- Buckets that are not full are those of clients of late. -/
theorem Traced.tracked_le_recent (h : Traced l w rs) (hrate : 0 < l.rate)
    (hleft : ∀ e ∈ w.limiter.buckets, e.2.isFull l w.now = false) :
    w.limiter.tracked ≤ (recent l w.now rs).card := by
  have hsub : w.limiter.clients.toFinset ⊆ recent l w.now rs := by
    intro client hclient
    obtain ⟨e, he, rfl⟩ := List.mem_map.mp (List.mem_toFinset.mp hclient)
    obtain ⟨r, hr, hname, htime⟩ := h.asked e he
    have hlate : Amount.seconds w.now ≤ Amount.seconds r.time + l.burst / l.rate := by
      rw [htime]
      exact Bucket.seconds_le_of_not_isFull hrate (h.holds he) (hleft e he)
    exact List.mem_toFinset.mpr
      (List.mem_map.mpr ⟨r, List.mem_filter.mpr ⟨hr, decide_eq_true hlate⟩, hname⟩)
  calc w.limiter.tracked = w.limiter.clients.length := (List.length_map _).symm
    _ = w.limiter.clients.toFinset.card := (List.toFinset_card_of_nodup h.nodup).symm
    _ ≤ _ := Finset.card_le_card hsub

/-- With an event that drops full buckets, none is left. -/
theorem isFull_of_endsInSweep (hregular : l.Regular l.Holds) (key : ρ → String) (start : ℕ)
    (es : List (Event ρ)) (e : Event ρ)
    (h : (Watch.mk (ofLimit l) start).endsInSweep key (es ++ [e]) = true) :
    ∀ x ∈ ((Watch.mk (ofLimit l) start).run key (es ++ [e])).limiter.buckets,
      x.2.isFull l ((Watch.mk (ofLimit l) start).run key (es ++ [e])).now = false := by
  have htraced := traced_run hregular key start es
  intro x hx
  rw [Watch.run_concat] at hx ⊢
  cases e with
  | request r =>
      obtain ⟨hanswer, hdue⟩ := (Watch.endsInSweep_request key _ es r).mp h
      obtain ⟨stored, hlimit, -, ⟨hnone, -⟩ | ⟨-, hrequests, hlimiter⟩⟩ := request_cases
        ((Watch.mk (ofLimit l) start).run key es).now (key r)
        ((Watch.mk (ofLimit l) start).run key es).limiter
      · exact absurd hnone hanswer
      · rw [if_pos (by rw [hrequests, htraced.requests]; exact hdue)] at hlimiter
        change x ∈ (request _ (key r) _).2.buckets at hx
        rw [hlimiter] at hx
        have hnotfull := (mem_sweep hx).2
        rw [hlimit, htraced.limit_eq] at hnotfull
        exact hnotfull
  | sweep =>
      have hnotfull := (mem_sweep hx).2
      rw [htraced.limit_eq] at hnotfull
      exact hnotfull
  | wait nanos =>
      rw [Watch.endsInSweep, List.getLast?_concat] at h
      cases h

/-- The clients of late at the most recent sweep; before the first one there are none. -/
def retained (l : Limit ℚ) (key : ρ → String) (start : ℕ) (es : List (Event ρ)) : Finset String :=
  let w : Watch ℚ := ⟨ofLimit l, start⟩
  (w.lastSweep? key es).elim ∅ fun front => recent l (w.run key front).now (w.replies key front)

theorem retained_concat (l : Limit ℚ) (key : ρ → String) (start : ℕ) (es : List (Event ρ))
    (e : Event ρ) :
    retained l key start (es ++ [e]) =
      if (Watch.mk (ofLimit l) start).endsInSweep key (es ++ [e]) then
        recent l ((Watch.mk (ofLimit l) start).run key (es ++ [e])).now
          ((Watch.mk (ofLimit l) start).replies key (es ++ [e]))
      else retained l key start es := by
  unfold retained
  simp only [Watch.lastSweep?_concat]
  split <;> rfl

/-! ## What comes in between -/

/-- Every client has a full bucket at first, so one that is not answered has a bucket already. -/
theorem mem_clients_of_undefined {l : Limiter ℚ} (hburst : 1 ≤ l.limit.burst) {now : ℕ}
    {key : String} (h : (l.request now key).1 = .undefined) : key ∈ l.clients := by
  by_contra hnew
  have hnone : l.bucket? key = none := by
    unfold bucket?
    rw [Option.map_eq_none_iff, List.find?_eq_none]
    intro e he hname
    exact hnew (List.mem_map.mpr ⟨e, he, of_decide_eq_true hname⟩)
  have hfull : (Bucket.full l.limit now).refill l.limit now = .full l.limit now :=
    Bucket.refill_self (b := .full l.limit now) le_rfl
  have htoken : (l.served now key).1 = .token := by
    unfold served
    rw [hnone, Option.getD_none, Bucket.acquire_token_iff, hfull]
    exact hburst
  rw [request_answer, htoken] at h
  cases h

/-- A request that drops no buckets adds one at most, and none if it is not answered. -/
theorem tracked_request_le {l : Limiter ℚ} (hburst : 1 ≤ l.limit.burst) (now : ℕ) (key : String)
    (h : (l.request now key).1 ≠ .undefined → ¬ 1024 ∣ l.requests + 1) :
    (l.request now key).2.tracked ≤
      l.tracked + if (l.request now key).1 = .undefined then 0 else 1 := by
  obtain ⟨stored, -, hbuckets, hcase⟩ := request_cases now key l
  have htracked : stored.tracked = if key ∈ l.clients then l.tracked else l.tracked + 1 := by
    unfold tracked
    rw [hbuckets]
    exact length_store _ _ _
  rcases hcase with ⟨hanswer, -, hlimiter⟩ | ⟨hanswer, hrequests, hlimiter⟩
  · rw [hlimiter, htracked, if_pos (mem_clients_of_undefined hburst hanswer)]
    exact Nat.le_add_right _ _
  · rw [hlimiter, if_neg (hrequests ▸ h hanswer), htracked, if_neg hanswer]
    split <;> omega

/-- While no full buckets are dropped, there are no more new clients than answers. -/
theorem tracked_of_not_endsInSweep (hregular : l.Regular l.Holds) (hburst : 1 ≤ l.burst)
    (key : ρ → String) (start : ℕ) (es : List (Event ρ)) (e : Event ρ)
    (h : ¬ (Watch.mk (ofLimit l) start).endsInSweep key (es ++ [e]) = true) :
    ((Watch.mk (ofLimit l) start).run key (es ++ [e])).limiter.tracked +
        answered ((Watch.mk (ofLimit l) start).replies key es) % 1024 ≤
      ((Watch.mk (ofLimit l) start).run key es).limiter.tracked +
        answered ((Watch.mk (ofLimit l) start).replies key (es ++ [e])) % 1024 := by
  have htraced := traced_run hregular key start es
  cases e with
  | request r =>
      rw [Watch.endsInSweep_request, not_and, ← htraced.requests] at h
      have hadded := tracked_request_le (htraced.limit_eq.symm ▸ hburst) _ (key r) h
      rw [Watch.run_concat, Watch.replies_concat]
      change (request _ (key r) _).2.tracked + _ ≤ _ + answered (_ ++ [_]) % 1024
      rw [answered_concat, ← htraced.requests]
      dsimp only
      split at hadded
      · rw [if_pos ‹_›]
        omega
      · rename_i hanswer
        have hnext := h hanswer
        rw [if_neg hanswer]
        omega
  | sweep =>
      rw [Watch.endsInSweep, List.getLast?_concat] at h
      exact absurd rfl h
  | wait nanos =>
      rw [Watch.run_concat, Watch.replies_concat]
      show _ ≤ _ + answered (_ ++ []) % 1024
      rw [List.append_nil]
      exact le_rfl

theorem tracked_run_le (hrate : 0 < l.rate) (hburst : 1 ≤ l.burst) (key : ρ → String) (start : ℕ)
    (es : List (Event ρ)) :
    ((Watch.mk (ofLimit l) start).run key es).limiter.tracked ≤
      answered ((Watch.mk (ofLimit l) start).replies key es) % 1024 +
        (retained l key start es).card := by
  have hregular := l.regular_of_nonneg hrate.le (zero_le_one.trans hburst)
  induction es using List.reverseRecOn with
  | nil => exact Nat.zero_le _
  | append_singleton es e ih =>
      rw [retained_concat]
      by_cases hsweep : (Watch.mk (ofLimit l) start).endsInSweep key (es ++ [e]) = true
      · rw [if_pos hsweep]
        have hleft := (traced_run hregular key start (es ++ [e])).tracked_le_recent hrate
          (isFull_of_endsInSweep hregular key start es e hsweep)
        exact hleft.trans (Nat.le_add_left _ _)
      · rw [if_neg hsweep]
        have hadded := tracked_of_not_endsInSweep hregular hburst key start es e hsweep
        omega

/-- A table that does not grow beyond recent traffic. -/
structure Compact (l : Limit ℚ) (key : ρ → String) (start : ℕ) (es : List (Event ρ)) : Prop where
  nodup : ((Watch.mk (ofLimit l) start).run key es).limiter.clients.Nodup
  tracked_le : ((Watch.mk (ofLimit l) start).run key es).limiter.tracked ≤
    1023 + (retained l key start es).card

/-- After any events, no client is tracked twice, and besides the clients of late at the most
recent sweep at most 1023 are tracked. -/
theorem compact_of_pos (hrate : 0 < l.rate) (hburst : 1 ≤ l.burst) (key : ρ → String) (start : ℕ)
    (es : List (Event ρ)) : Compact l key start es := by
  have hregular := l.regular_of_nonneg hrate.le (zero_le_one.trans hburst)
  have htracked := tracked_run_le hrate hburst key start es
  exact ⟨(traced_run hregular key start es).nodup, by omega⟩

/-- One client has been quiet for too long, one has not, and one comes after the sweep. -/
theorem compact_of_pos_three_clients :
    (0 : ℚ) < 1 / 2 ∧ (1 : ℚ) ≤ 2 ∧
      Compact ⟨1 / 2, 2⟩ id 0
        [.request "a", .wait (5 * Duration.second), .request "b", .sweep, .request "c"] ∧
      retained ⟨1 / 2, 2⟩ id 0
        [.request "a", .wait (5 * Duration.second), .request "b", .sweep, .request "c"] =
          {"b"} := by
  have hrate : (0 : ℚ) < 1 / 2 := by norm_num
  have hburst : (1 : ℚ) ≤ 2 := by norm_num
  exact ⟨hrate, hburst, compact_of_pos hrate hburst id 0 _, by decide +kernel⟩

end Limiter

end Gateway
