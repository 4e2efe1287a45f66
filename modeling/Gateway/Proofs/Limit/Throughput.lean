import Gateway.Proofs.Limit.Exact

/-!
# How much a limit lets through

Requests are paid for with what a client has available. This grows with the rate, never
beyond the capacity of a bucket, and neither refused requests nor dropped buckets add to it.
So in every window of time, at most a full bucket and what comes in meanwhile is spent.
-/

namespace Gateway.Limiter

variable {l : Limit ℚ} {b : Option (Bucket ℚ)} {now later : ℕ} {s t : ℚ} {ρ : Type}

/-! ## What is available -/

/-- The tokens that a client can spend. -/
def available (l : Limit ℚ) (b : Option (Bucket ℚ)) (now : ℕ) : ℚ :=
  (stock l b now).tokens

theorem available_le_burst (l : Limit ℚ) (b : Option (Bucket ℚ)) (now : ℕ) :
    available l b now ≤ l.burst := by
  unfold available stock
  rw [Bucket.tokens_refill]
  exact min_le_right _ _

theorem available_later (hrate : 0 ≤ l.rate) (h : ∀ x, b = some x → x.Kept l now)
    (hle : now ≤ later) : available l b later ≤
      available l b now + l.rate * (Amount.seconds later - Amount.seconds now) := by
  have hgrowth : 0 ≤ l.rate * (Amount.seconds later - Amount.seconds now) :=
    mul_nonneg hrate (sub_nonneg.mpr (seconds_mono hle))
  cases b with
  | none =>
      have hfull : available l none now = l.burst := congrArg Bucket.tokens (stock_none hrate now)
      rw [hfull]
      exact (available_le_burst l none later).trans (le_add_of_nonneg_right hgrowth)
  | some x =>
      unfold available
      rw [stock_some, stock_some, Bucket.tokens_refill, Bucket.tokens_refill,
        Bucket.grown_later (h x rfl).updated hle, seconds_sub hle, mul_comm _ l.rate,
        ← min_add_add_right]
      exact min_le_min_left _ (le_add_of_nonneg_right hgrowth)

/-- A request that passes takes a token, and a request that is refused takes nothing. -/
theorem available_acquire (hrate : 0 ≤ l.rate) {x : Bucket ℚ} (hx : x.Kept l now) :
    available l (some (x.acquire l now).2) now =
      (x.refill l now).tokens - if (x.acquire l now).1 = .token then 1 else 0 := by
  unfold available
  rw [stock_some]
  have hrefill := Bucket.holds_refill hrate hx.holds now
  by_cases htoken : 1 ≤ (x.refill l now).tokens
  · have hfits : (x.refill l now).tokens - 1 ≤ l.burst :=
      (sub_le_self _ zero_le_one).trans hrefill.2
    rw [if_pos (Bucket.acquire_token_iff.mpr htoken), Bucket.acquire_of_le htoken]
    exact congrArg Bucket.tokens (Bucket.refill_self (b := ⟨_, now⟩) hfits)
  · rw [if_neg (mt Bucket.acquire_token_iff.mp htoken), Bucket.acquire_of_lt (not_le.mp htoken),
      Bucket.refill_refill hrate hx.updated le_rfl, sub_zero]

/-! ## Windows of time -/

/-- The number of requests that passed from `s` to `t` seconds. -/
def passes (s t : ℚ) (rs : List Reply) : ℕ :=
  rs.countP fun r => r.answer = .pass ∧ s ≤ Amount.seconds r.time ∧ (Amount.seconds r.time : ℚ) ≤ t

theorem passes_cons (s t : ℚ) (r : Reply) (rs : List Reply) :
    passes s t (r :: rs) = passes s t rs +
      if r.answer = .pass ∧ s ≤ Amount.seconds r.time ∧ (Amount.seconds r.time : ℚ) ≤ t then 1
      else 0 := by
  unfold passes
  rw [List.countP_cons]
  simp only [decide_eq_true_eq]

theorem passes_eq_zero {rs : List Reply} (h : ∀ r ∈ rs, t < Amount.seconds r.time) :
    passes s t rs = 0 := by
  apply List.countP_eq_zero.mpr
  intro r hr hcounted
  obtain ⟨-, -, hle⟩ := of_decide_eq_true hcounted
  exact absurd hle (not_le.mpr (h r hr))

/-- The replies that one bucket alone gives, from some time on. -/
structure Served (l : Limit ℚ) (b : Option (Bucket ℚ)) (now : ℕ) (rs : List Reply) : Prop where
  kept : ∀ x, b = some x → x.Kept l now
  answers : rs.map (·.answer) = alone l b (rs.map (·.time))
  ordered : rs.Pairwise (·.time ≤ ·.time)
  later : ∀ r ∈ rs, now ≤ r.time

/-- The first reply, and what the bucket is for the others. -/
theorem Served.cons (hrate : 0 ≤ l.rate) (hburst : 0 ≤ l.burst) {r : Reply} {rs : List Reply}
    (h : Served l b now (r :: rs)) : ∃ x : Bucket ℚ, x.Kept l r.time ∧
      (x.refill l r.time).tokens = available l b r.time ∧
      (r.answer = .pass ↔ (x.acquire l r.time).1 = .token) ∧
      Served l (some (x.acquire l r.time).2) r.time rs := by
  have hle : now ≤ r.time := h.later r List.mem_cons_self
  have hkept := kept_getD hburst fun x hx => (h.kept x hx).mono hle
  have hanswers := h.answers
  rw [List.map_cons, List.map_cons, alone, List.cons.injEq] at hanswers
  obtain ⟨hanswer, hrest⟩ := hanswers
  obtain ⟨hfirst, hordered⟩ := List.pairwise_cons.mp h.ordered
  refine ⟨b.getD (.full l r.time), hkept, rfl, ?_, ?_, hrest, hordered, hfirst⟩
  · rw [hanswer, verdict_eq_pass_iff]
  · rintro _ ⟨rfl⟩
    exact Bucket.kept_acquire hrate hkept.holds

/-- Until the first reply, nothing happens. -/
theorem Served.from_first {r : Reply} {rs : List Reply} (h : Served l b now (r :: rs)) :
    Served l b r.time (r :: rs) where
  kept x hx := (h.kept x hx).mono (h.later r List.mem_cons_self)
  answers := h.answers
  ordered := h.ordered
  later := List.forall_mem_cons.mpr ⟨le_rfl, (List.pairwise_cons.mp h.ordered).1⟩

/-- Nothing is counted after the window. -/
theorem Served.passes_eq_zero {r : Reply} {rs : List Reply} (h : Served l b now (r :: rs))
    (ht : t < Amount.seconds r.time) : passes s t (r :: rs) = 0 := by
  apply Limiter.passes_eq_zero
  rw [List.forall_mem_cons]
  refine ⟨ht, ?_⟩
  intro other hother
  exact ht.trans_le (seconds_mono ((List.pairwise_cons.mp h.ordered).1 other hother))

theorem Served.available_nonneg (hrate : 0 ≤ l.rate) (hburst : 0 ≤ l.burst) {rs : List Reply}
    (h : Served l b now rs) : 0 ≤ available l b now :=
  (Bucket.holds_refill hrate (kept_getD hburst h.kept).holds now).1

/-- Requests are paid for with what is available and what comes in. -/
theorem Served.passes_le_available (hrate : 0 ≤ l.rate) (hburst : 0 ≤ l.burst) {rs : List Reply}
    (h : Served l b now rs) (ht : Amount.seconds now ≤ t) :
    (passes s t rs : ℚ) ≤ available l b now + l.rate * (t - Amount.seconds now) := by
  have hnonneg : 0 ≤ available l b now + l.rate * (t - Amount.seconds now) :=
    add_nonneg (h.available_nonneg hrate hburst) (mul_nonneg hrate (sub_nonneg.mpr ht))
  induction rs generalizing b now with
  | nil => exact hnonneg
  | cons r rs ih =>
      by_cases hr : (Amount.seconds r.time : ℚ) ≤ t
      · obtain ⟨x, hx, havailable, hpass, hserved⟩ := h.cons hrate hburst
        have hgrowth := available_later hrate h.kept (h.later r List.mem_cons_self)
        have hrest := ih hserved hr (add_nonneg (hserved.available_nonneg hrate hburst)
          (mul_nonneg hrate (sub_nonneg.mpr hr)))
        rw [available_acquire hrate hx, havailable] at hrest
        rw [passes_cons, Nat.cast_add]
        by_cases hanswer : r.answer = .pass
        · rw [if_pos (hpass.mp hanswer)] at hrest
          have hone : (((if r.answer = .pass ∧ s ≤ Amount.seconds r.time ∧
              (Amount.seconds r.time : ℚ) ≤ t then 1 else 0 : ℕ)) : ℚ) ≤ 1 := by
            split_ifs <;> norm_num
          linarith
        · rw [if_neg fun htoken => hanswer (hpass.mpr htoken)] at hrest
          rw [if_neg fun hcounted => hanswer hcounted.1, Nat.cast_zero]
          linarith
      · rw [h.passes_eq_zero (not_le.mp hr), Nat.cast_zero]
        exact hnonneg

/-- Whatever was spent before a window, it begins with at most a full bucket. -/
theorem Served.passes_le (hrate : 0 ≤ l.rate) (hburst : 0 ≤ l.burst) {rs : List Reply}
    (h : Served l b now rs) (hst : s ≤ t) : (passes s t rs : ℚ) ≤ l.burst + l.rate * (t - s) := by
  have hnonneg : 0 ≤ l.burst + l.rate * (t - s) :=
    add_nonneg hburst (mul_nonneg hrate (sub_nonneg.mpr hst))
  induction rs generalizing b now with
  | nil => exact hnonneg
  | cons r rs ih =>
      by_cases hs : s ≤ Amount.seconds r.time
      · by_cases ht : (Amount.seconds r.time : ℚ) ≤ t
        · have hpaid := h.from_first.passes_le_available (s := s) hrate hburst ht
          have hfull := available_le_burst l b r.time
          have hwindow := mul_le_mul_of_nonneg_left (sub_le_sub_left hs t) hrate
          linarith
        · rw [h.passes_eq_zero (not_le.mp ht), Nat.cast_zero]
          exact hnonneg
      · obtain ⟨_, _, _, _, hserved⟩ := h.cons hrate hburst
        rw [passes_cons, if_neg fun hcounted => hs hcounted.2.1, add_zero]
        exact ih hserved

/-! ## Limiters -/

/-- What a limiter lets through in the course of some events, and what its buckets hold. -/
structure Metered (l : Limit ℚ) (key : ρ → String) (start : ℕ) (es : List (Event ρ)) : Prop where
  passes_le : ∀ client (s t : ℚ), s ≤ t →
    (passes s t (((Watch.mk (ofLimit l) start).replies key es).filter (·.client = client)) : ℚ) ≤
      l.burst + l.rate * (t - s)
  holds : ∀ e ∈ ((Watch.mk (ofLimit l) start).run key es).limiter.buckets,
    0 ≤ e.2.tokens ∧ e.2.tokens ≤ l.burst

/-- In every window of time, a client gets at most a full bucket and what comes in. -/
theorem metered_of_pos (hrate : 0 < l.rate) (hburst : 1 ≤ l.burst) (key : ρ → String) (start : ℕ)
    (es : List (Event ρ)) : Metered l key start es := by
  have hburst : 0 ≤ l.burst := zero_le_one.trans hburst
  have hregular := l.regular_of_nonneg hrate.le hburst
  constructor
  · intro client s t hst
    obtain ⟨hordered, hlater⟩ := (Watch.mk (ofLimit l) start).ordered_replies key es
    have halone := (independent_of_regular hregular key start es).eq_alone client
    have hscheduled := (Watch.mk (ofLimit l) start).schedule_replies key es
    rw [← hscheduled, List.filter_map, List.map_map] at halone
    have hserved : Served l none start
        (((Watch.mk (ofLimit l) start).replies key es).filter (·.client = client)) :=
      ⟨nofun, halone, hordered.filter _, fun r hr => hlater r (List.mem_of_mem_filter hr)⟩
    exact hserved.passes_le hrate.le hburst hst
  · intro e he
    obtain ⟨shelf, hmirrors, -⟩ := (mirrors_ofLimit l l.Holds start).run hregular key es
    exact hmirrors.sound_of_mem he

/-- Half a token comes in each second, and two clients ask for more. -/
theorem metered_of_pos_two_clients :
    (0 : ℚ) < 1 / 2 ∧ (1 : ℚ) ≤ 2 ∧
      Metered ⟨1 / 2, 2⟩ id 0
        [.request "a", .request "b", .request "a", .request "a", .wait (8 * Duration.second),
          .sweep, .request "a"] := by
  have hrate : (0 : ℚ) < 1 / 2 := by norm_num
  have hburst : (1 : ℚ) ≤ 2 := by norm_num
  exact ⟨hrate, hburst, metered_of_pos hrate hburst id 0 _⟩

end Gateway.Limiter
