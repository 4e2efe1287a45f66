import Gateway.Proofs.Limit.Waits

/-!
# Coming back after a wait

A client that is refused is told to come back after some seconds, which are the wait for a
token, rounded to the nearest nanosecond and then up to whole seconds. Rounding may take half
a nanosecond away, and where the wait ends with a second it is missed: a client that comes
back in time may be refused again. A nanosecond later, or two after a wait of days, it is let
through, and in time if a token comes each second.
-/

namespace Gateway.Limiter

open Binary64

/-! ## Two requests of a client -/

/-- A client makes a request and later another one, and none of its own in between. -/
structure Comeback {ρ : Type} (key : ρ → String) where
  start : ℕ
  before : List (Event ρ)
  first : ρ
  meanwhile : List (Event ρ)
  again : ρ
  same : key again = key first
  quiet : ∀ r, .request r ∈ meanwhile → key r ≠ key first

namespace Comeback

variable {α : Type} [Amount α] {ρ : Type} {key : ρ → String}

/-- The limiter before the first of the requests. -/
def met (c : Comeback key) (l : Limit α) : Watch α :=
  (Watch.mk (ofLimit l) c.start).run key c.before

/-- What the first request is told by its bucket. -/
def owed (c : Comeback key) (l : Limit α) : Grant :=
  ((c.met l).limiter.served (c.met l).now (key c.first)).1

/-- What the client is told the first time. -/
def told (c : Comeback key) (l : Limit α) : Admission :=
  ((c.met l).limiter.request (c.met l).now (key c.first)).1

/-- The limiter before the second of the requests. -/
def back (c : Comeback key) (l : Limit α) : Watch α :=
  ((c.met l).step key (.request c.first)).run key c.meanwhile

/-- What the client is told the second time. -/
def answer (c : Comeback key) (l : Limit α) : Admission :=
  ((c.back l).limiter.request (c.back l).now (key c.again)).1

/-- The nanoseconds between the requests. -/
def away (c : Comeback key) (l : Limit α) : ℕ :=
  (c.back l).now - (c.met l).now

/-- Both requests are those of one bucket. -/
theorem exists_bucket {l : Limit α} {Sound : α → Prop} (hregular : l.Regular Sound)
    (c : Comeback key) : ∃ b : Bucket α, Sound b.tokens ∧
      c.owed l = (b.acquire l (c.met l).now).1 ∧
      c.answer l = verdict α ((b.acquire l (c.met l).now).2.acquire l (c.back l).now).1 := by
  obtain ⟨shelf, hmet⟩ : ∃ shelf, Mirrors l Sound shelf (c.met l) :=
    ((mirrors_ofLimit l Sound c.start).run hregular key c.before).imp fun _ h => h.1
  obtain ⟨shelf', hback, hbucket⟩ : ∃ shelf', Mirrors l Sound shelf' (c.back l) ∧
      shelf' (key c.first) = some ((c.met l).limiter.served (c.met l).now (key c.first)).2 := by
    obtain ⟨shelf', hback, hsame⟩ :=
      (hmet.request hregular (key c.first)).run hregular key c.meanwhile
    -- Nobody else touches the bucket in between.
    exact ⟨shelf', hback, (hsame (key c.first) c.quiet).trans (Function.update_self ..)⟩
  have hfirst : (c.met l).limiter.served (c.met l).now (key c.first) =
      (((c.met l).limiter.bucket? (key c.first)).getD (.full l (c.met l).now)).acquire l
        (c.met l).now := by
    unfold served
    rw [hmet.limit_eq]
  have hagain := hback.served_eq hregular (key c.first)
  rw [hbucket, Option.getD_some] at hagain
  refine ⟨_, hmet.sound_getD hregular.burst (key c.first) (c.met l).now, ?_, ?_⟩
  · unfold owed
    rw [hfirst]
  · unfold answer
    rw [request_answer, c.same, hagain, hfirst]

end Comeback

/-! ## Enough time for a token -/

variable {l : Limit Float} {b : Bucket Float} {burst : WithTop ℚ} {r q : ℚ} {nanos later : ℕ}

/-- A number of 53 bits below one is at least `2 ^ -53` below it. -/
theorem two_zpow_le_one_sub (hq : nearest q = q) (hlt : q < 1) : 2 ^ (-53 : ℤ) ≤ 1 - q := by
  by_contra hnot
  have hlarge : 1 - 2 ^ (-53 : ℤ) < q := by linarith
  norm_num at hlarge
  have hunit : ulp q = -53 :=
    ulp_eq (by norm_num) (by norm_num; linarith) (by linarith) (.inr (by norm_num; linarith))
  unfold nearest at hq
  rw [hunit] at hq
  generalize toEven (q / 2 ^ (-53 : ℤ)) = k at hq
  -- The number is a multiple of its unit, and there is none between these two.
  have hk : (k : ℚ) = q * 2 ^ 53 := by
    rw [← hq, mul_assoc]
    norm_num
  have hlo : ((2 ^ 53 - 1 : ℕ) : ℚ) < k := by
    rw [hk]
    norm_num
    linarith
  have hhi : (k : ℚ) < ((2 ^ 53 : ℕ) : ℚ) := by
    rw [hk]
    norm_num
    linarith
  have hbetween := And.intro (Nat.cast_lt.mp hlo) (Nat.cast_lt.mp hhi)
  omega

/-- A wait that was rounded a few times is still most of the wait for the rest of a token. -/
theorem leftover_sq_mul_le_wait {x : ℚ} (hpos : 0 < r) (hr : r ≤ 1) (hq : nearest q = q)
    (hlt : q < 1) (hwait : waitValue r q = x) : leftover ^ 2 * (1 - q) ≤ x * r := by
  have hrest := two_zpow_le_one_sub hq hlt
  have hmissing := leftover_mul_le_nearest (isNormal_of_le (q := 1 - q)
    ((zpow_le_zpow_right₀ one_le_two (by norm_num)).trans hrest))
  have hdiv : nearest (1 - q) ≤ nearest (1 - q) / r := by
    rw [le_div_iff₀ hpos]
    exact mul_le_of_le_one_right (nearest_nonneg _) hr
  have hnormal : IsNormal (nearest (1 - q) / r) := by
    refine isNormal_of_le (le_trans ?_ (hmissing.trans hdiv))
    refine le_trans ?_ (mul_le_mul_of_nonneg_left hrest leftover_pos.le)
    norm_num [leftover]
  have hround := leftover_mul_le_rounded hnormal le_rfl
  unfold waitValue at hwait
  rw [hwait, WithTop.coe_le_coe, ← mul_div_assoc, div_le_iff₀ hpos] at hround
  calc leftover ^ 2 * (1 - q) = leftover * (leftover * (1 - q)) := by ring
    _ ≤ leftover * nearest (1 - q) := mul_le_mul_of_nonneg_left hmissing leftover_pos.le
    _ ≤ x * r := hround

/-- What comes in, however it is rounded, makes up for what is missing. -/
theorem one_le_grownValue (hpos : 0 < r) (hq : nearest q = q) (hlt : q < 1)
    (henough : 1 - q ≤ leftover ^ 3 * (later / Duration.second * r)) :
    1 ≤ grownValue q r (secondsValue later) := by
  have hrest := two_zpow_le_one_sub hq hlt
  have hseconds : ((leftover ^ 2 * (later / Duration.second) * r : ℚ) : WithTop ℚ) ≤
      secondsValue later * r :=
    mul_rate_mono (WithTop.coe_nonneg.mpr (by positivity)) (leftover_sq_mul_le_secondsValue later)
      (WithTop.coe_pos.mpr hpos)
  have hmul : leftover * (leftover ^ 2 * (later / Duration.second) * r) =
      leftover ^ 3 * (later / Duration.second * r) := by ring
  rw [← hmul] at henough
  have hnormal : IsNormal (leftover ^ 2 * (later / Duration.second) * r) := by
    refine isNormal_of_le (le_trans (zpow_le_zpow_right₀ one_le_two (by norm_num)) (hrest.trans ?_))
    refine henough.trans (mul_le_of_le_one_left ?_ leftover_lt_one.le)
    positivity
  have hround := leftover_mul_le_rounded hnormal hseconds
  have hsum : ((1 : ℚ) : WithTop ℚ) ≤ q + rounded (secondsValue later * r) := by
    refine le_trans ?_ (add_le_add_right hround (q : WithTop ℚ))
    rw [← WithTop.coe_add, WithTop.coe_le_coe]
    linarith
  exact one_le_rounded hsum

/-- A token each second makes up for anything within a second. -/
theorem one_le_grownValue_of_second (hr : 1 ≤ r) (hq : 0 ≤ q) (hsecond : Duration.second ≤ later) :
    1 ≤ grownValue q r (secondsValue later) := by
  have hseconds : 1 ≤ secondsValue later :=
    secondsValue_second.symm.trans_le (secondsValue_mono hsecond)
  have hrate : (1 : WithTop ℚ) ≤ r := WithTop.coe_le_coe.mpr hr
  have hmul := mul_rate_mono zero_le_one hseconds (zero_lt_one.trans_le hrate)
  rw [one_mul] at hmul
  have hsum : 1 ≤ (q : WithTop ℚ) + rounded (secondsValue later * r) :=
    (one_le_rounded (hrate.trans hmul)).trans (le_add_of_nonneg_left (WithTop.coe_nonneg.mpr hq))
  exact one_le_rounded hsum

/-! ## Requests after a wait -/

variable {rate : WithTop ℚ} {now : ℕ}

/-- A request that has to wait finds less than a token, and leaves it. -/
theorem short_of_wait (h : Accepted l rate burst) (hb : IsAmount b.tokens)
    (hwait : (b.acquire l now).1 = .wait nanos) :
    ∃ r q x : ℚ, rate = r ∧ Short l (b.acquire l now).2 r q ∧ (b.acquire l now).2.updated = now ∧
      waitValue r q = x ∧ x < 2 ^ 64 ∧ nanos = toEven (x * Duration.second) := by
  cases hone : Amount.atMost Bucket.one (b.refill l now).tokens with
  | true =>
      rw [Bucket.acquire_token hone] at hwait
      exact nomatch hwait
  | false =>
      obtain ⟨r, q, hrate, hshort⟩ := short_of_refused h hb hone
      have hshortage := hshort.shortage
      rw [Bucket.acquire_refused hone] at hwait ⊢
      have hsome : Duration.ofSeconds? ((b.refill l now).shortage l) = some nanos := by
        show Amount.wait? ((b.refill l now).shortage l) = some nanos
        cases hnanos : Amount.wait? ((b.refill l now).shortage l) <;> simp_all
      have hlong := (isSome_ofSeconds?_iff hshortage).mp (Option.isSome_of_eq_some hsome)
      obtain ⟨x, hx⟩ := WithTop.ne_top_iff_exists.mp (hlong.trans (WithTop.coe_lt_top _)).ne
      rw [← hx] at hshortage hlong
      have hlt' : x < 2 ^ 64 := WithTop.coe_lt_coe.mp hlong
      rw [hshortage.ofSeconds?_eq, if_neg (not_le.mpr hlt'), Option.some_inj] at hsome
      exact ⟨r, q, x, hrate, hshort, rfl, hx.symm, hlt', hsome.symm⟩

/-- With enough tokens in the meantime, the next request passes. -/
theorem token_of_grown (h : Accepted l r burst) (htokens : Reads b.tokens q)
    (hgrown : 1 ≤ grownValue q r (secondsValue (later - b.updated))) :
    (b.acquire l later).1 = .token := by
  have hrefill := reads_refill h WithTop.coe_ne_top htokens later
  rw [Bucket.acquire_fst_eq_token_iff, atMost_one_iff hrefill]
  exact le_min hgrown h.one_le_burst

/-- The nanoseconds by which a client should be late, to be let through in any case. -/
def lateness (seconds : ℕ) : ℕ :=
  1 + seconds / 500000

theorem lt_lateness (seconds : ℕ) : seconds < 500000 * lateness seconds := by
  unfold lateness
  omega

/-- Being late by a little makes up for eight roundings. -/
theorem add_half_le {n extra : ℕ} (hn : n ≤ 500000 * Duration.second * extra) (hextra : 0 < extra)
    (hlate : n + extra ≤ later) : (n : ℚ) + 1 / 2 ≤ leftover ^ 8 * later := by
  have hn' : (n : ℚ) ≤ (500000 * Duration.second * extra : ℕ) := Nat.cast_le.mpr hn
  have hextra' : (1 : ℚ) ≤ extra := by exact_mod_cast hextra
  have hlate' : (n + extra : ℚ) ≤ later := by exact_mod_cast hlate
  have hloss : 1 - 8 * 2 ^ (-53 : ℤ) ≤ leftover ^ 8 := by norm_num [leftover]
  refine le_trans ?_ (mul_le_mul hloss hlate' (by positivity) (pow_pos leftover_pos _).le)
  norm_num [Duration.second] at hn' ⊢
  linarith

/-- Who is late by a little after a wait has waited enough. -/
theorem le_of_late_nanos (hlate : nanos + lateness (nanos / Duration.second) ≤ later) :
    (nanos : ℚ) + 1 / 2 ≤ leftover ^ 5 * later := by
  have hbound : nanos ≤ 500000 * Duration.second * lateness (nanos / Duration.second) := by
    have hlt := lt_lateness (nanos / Duration.second)
    unfold Duration.second at hlt ⊢
    omega
  refine (add_half_le hbound (Nat.lt_of_lt_of_le one_pos (Nat.le_add_right 1 _)) hlate).trans ?_
  exact mul_le_mul_of_nonneg_right
    (pow_le_pow_of_le_one leftover_pos.le leftover_lt_one.le (by norm_num)) (Nat.cast_nonneg _)

/-- So has who is late by a little after the seconds that the wait was rounded up to. -/
theorem le_of_late_seconds {seconds : ℕ}
    (hseconds : leftover ^ 3 * (nanos / Duration.second) ≤ (seconds : ℚ))
    (hlate : seconds * Duration.second + lateness seconds ≤ later) :
    (nanos : ℚ) + 1 / 2 ≤ leftover ^ 5 * later := by
  have hbound : seconds * Duration.second ≤ 500000 * Duration.second * lateness seconds := by
    have hlt := lt_lateness seconds
    unfold Duration.second
    omega
  have henough := add_half_le hbound (Nat.lt_of_lt_of_le one_pos (Nat.le_add_right 1 _)) hlate
  rw [← mul_div_assoc, div_le_iff₀ second_cast_pos] at hseconds
  have hcube : leftover ^ 3 ≤ 1 := pow_le_one₀ leftover_pos.le leftover_lt_one.le
  refine le_of_mul_le_mul_left ?_ (pow_pos leftover_pos 3)
  calc leftover ^ 3 * ((nanos : ℚ) + 1 / 2)
      = leftover ^ 3 * nanos + leftover ^ 3 * (1 / 2) := by ring
    _ ≤ (seconds : ℚ) * Duration.second + 1 / 2 := by linarith
    _ ≤ leftover ^ 8 * later := by exact_mod_cast henough
    _ = leftover ^ 3 * (leftover ^ 5 * later) := by ring

/-- Enough time after the wait, the request passes. -/
theorem token_of_wait (h : Accepted l rate burst) (hb : IsAmount b.tokens)
    (hwait : (b.acquire l now).1 = .wait nanos) (hslow : rate ≤ 1)
    (henough : (nanos : ℚ) + 1 / 2 ≤ leftover ^ 5 * (later - now : ℕ)) :
    ((b.acquire l now).2.acquire l later).1 = .token := by
  obtain ⟨r, q, x, rfl, hshort, hnow, hx, -, rfl⟩ := short_of_wait h hb hwait
  have hq := hshort.tokens.nearest_eq
  refine token_of_grown h hshort.tokens ?_
  rw [hnow]
  refine one_le_grownValue hshort.rate_pos hq hshort.lt_one ?_
  have hmost := leftover_sq_mul_le_wait hshort.rate_pos (WithTop.coe_le_coe.mp hslow) hq
    hshort.lt_one hx
  have hround := le_toEven_add_half (x * Duration.second)
  have hnanos : x ≤ leftover ^ 5 * ((later - now : ℕ) / Duration.second) := by
    rw [← mul_div_assoc, le_div_iff₀ second_cast_pos]
    exact hround.trans henough
  refine le_of_mul_le_mul_left ?_ (pow_pos leftover_pos 2)
  calc leftover ^ 2 * (1 - q) ≤ x * r := hmost
    _ ≤ leftover ^ 5 * ((later - now : ℕ) / Duration.second) * r :=
        mul_le_mul_of_nonneg_right hnanos hshort.rate_pos.le
    _ = leftover ^ 2 * (leftover ^ 3 * ((later - now : ℕ) / Duration.second * r)) := by ring

/-- If a token comes each second, a second is enough. -/
theorem token_of_second (h : Accepted l rate burst) (hb : IsAmount b.tokens)
    (hwait : (b.acquire l now).1 = .wait nanos) (hfast : 1 ≤ rate)
    (hsecond : Duration.second ≤ later - now) :
    ((b.acquire l now).2.acquire l later).1 = .token := by
  obtain ⟨r, q, x, rfl, hshort, hnow, -⟩ := short_of_wait h hb hwait
  refine token_of_grown h hshort.tokens ?_
  rw [hnow]
  exact one_le_grownValue_of_second (WithTop.coe_le_coe.mp hfast) hshort.nonneg hsecond

theorem le_limit_of_wait (h : Accepted l rate burst) (hb : IsAmount b.tokens)
    (hwait : (b.acquire l now).1 = .wait nanos) :
    nanos ≤ Duration.secondsLimit * Duration.second := by
  obtain ⟨r, q, x, -, -, -, -, hlt, rfl⟩ := short_of_wait h hb hwait
  have hle : x * Duration.second ≤ (Duration.secondsLimit * Duration.second : ℕ) := by
    rw [Nat.cast_mul]
    refine mul_le_mul_of_nonneg_right (hlt.le.trans_eq ?_) second_cast_pos.le
    norm_num [Duration.secondsLimit]
  rw [← toEven_natCast (Duration.secondsLimit * Duration.second)]
  exact toEven_mono hle

/-! ## Told and let through -/

/-- A client that is told to come back after some seconds, and does, is let through if a token
comes each second, if it is a little late, or if its wait did not end just then. -/
theorem answer_eq_pass_of_told {ρ : Type} {key : ρ → String} (s : LimitSettings)
    (hvalid : s.isValid = true) (c : Comeback key) {seconds : ℕ}
    (htold : c.told s.limit = .retry seconds)
    (hback : seconds * Duration.second ≤ c.away s.limit)
    (henough : 1 ≤ s.rate ∨
      seconds * Duration.second + lateness seconds ≤ c.away s.limit ∨
      ∃ nanos, c.owed s.limit = .wait nanos ∧
        nanos + lateness (nanos / Duration.second) ≤ c.away s.limit) :
    c.answer s.limit = .pass := by
  obtain ⟨rate, haccepted⟩ := accepted_of_isValid hvalid
  obtain ⟨b, hb, howed, hanswer⟩ := c.exists_bucket (regular_of_isValid hvalid)
  have hverdict : verdict Float (c.owed s.limit) = .retry seconds :=
    (request_answer _ _ _).symm.trans htold
  obtain ⟨nanos, hnanos, hseconds⟩ := exists_wait_of_verdict hverdict
  have hwait : (b.acquire s.limit (c.met s.limit).now).1 = .wait nanos := howed.symm.trans hnanos
  have hpos : 0 < seconds := hseconds ▸ Nat.lt_of_lt_of_le one_pos (le_max_left _ _)
  have hrate : 1 ≤ s.rate ↔ 1 ≤ rate := reads_bucket_one.le_iff haccepted.reads_rate
  rw [hanswer, verdict_eq_pass_iff]
  by_cases hfast : 1 ≤ rate
  · exact token_of_second haccepted hb hwait hfast ((Nat.le_mul_of_pos_left _ hpos).trans hback)
  · refine token_of_wait haccepted hb hwait (not_le.mp hfast).le ?_
    rcases henough.resolve_left (mt hrate.mp hfast) with hlate | ⟨nanos', hnanos', hlate⟩
    · have hmost := leftover_mul_le_ceilSeconds (le_limit_of_wait haccepted hb hwait)
      refine le_of_late_seconds (hmost.trans (Nat.cast_le.mpr ?_)) hlate
      exact hseconds ▸ le_max_right _ _
    · obtain rfl := Grant.wait.inj (hnanos'.symm.trans hnanos)
      exact le_of_late_nanos hlate

/-- With three tokens in ten seconds, a client asks again after one of them. A little more than
three seconds are missing, by less than half a nanosecond, and it comes back after these. -/
def thirds (late : ℕ) : Comeback (id : String → String) where
  start := 0
  before := [.request "a", .wait 333333333]
  first := "a"
  meanwhile := [.wait (3 * Duration.second + late)]
  again := "a"
  same := rfl
  quiet := by simp

/-- A nanosecond later, it is let through. -/
theorem answer_eq_pass_of_told_thirds :
    (LimitSettings.mk 0.3 1).isValid = true ∧
      (thirds 1).told (LimitSettings.mk 0.3 1).limit = .retry 3 ∧
      3 * Duration.second + lateness 3 ≤ (thirds 1).away (LimitSettings.mk 0.3 1).limit ∧
      (thirds 1).answer (LimitSettings.mk 0.3 1).limit = .pass := by
  have hvalid : (LimitSettings.mk 0.3 1).isValid = true := by decide +kernel
  have htold : (thirds 1).told (LimitSettings.mk 0.3 1).limit = .retry 3 := by decide +kernel
  have hlate :
      3 * Duration.second + lateness 3 ≤ (thirds 1).away (LimitSettings.mk 0.3 1).limit := by
    decide +kernel
  exact ⟨hvalid, htold, hlate, answer_eq_pass_of_told _ hvalid (thirds 1) htold
    ((Nat.le_add_right _ _).trans hlate) (.inr (.inl hlate))⟩

/-- In time, it is refused. -/
theorem refused_in_time :
    (LimitSettings.mk 0.3 1).isValid = true ∧
      (thirds 0).told (LimitSettings.mk 0.3 1).limit = .retry 3 ∧
      3 * Duration.second ≤ (thirds 0).away (LimitSettings.mk 0.3 1).limit ∧
      (thirds 0).answer (LimitSettings.mk 0.3 1).limit ≠ .pass := by
  decide +kernel

end Gateway.Limiter
