import Gateway.Proofs.Binary64.Durations
import Gateway.Proofs.Limit.FloatingPoint

/-!
# Waits in floating point

A request that is refused finds less than one token, and the wait for the rest of it is a
number that is not negative. It is a duration unless tokens come so slowly that one takes
`2 ^ 64` seconds. The gateway accepts such rates, and then some requests have no answer.
-/

namespace Gateway.Limiter

open Binary64

/-- The values of a limit that the gateway accepts. -/
structure Accepted (l : Limit Float) (rate burst : WithTop ℚ) : Prop where
  reads_rate : Reads l.rate rate
  rate_pos : 0 < rate
  reads_burst : Reads l.burst burst
  one_le_burst : 1 ≤ burst

theorem accepted_of_isValid {s : LimitSettings} (h : s.isValid = true) :
    ∃ rate, Accepted s.limit rate (rounded ((s.burst : ℚ) : WithTop ℚ)) := by
  obtain ⟨hrate, hburst⟩ := Bool.and_eq_true_iff.mp h
  obtain ⟨rate, hreads, hpos⟩ := Reads.of_pos (of_decide_eq_true hrate)
  have hone : (1 : ℚ) ≤ s.burst := by
    exact_mod_cast Nat.one_le_iff_ne_zero.mpr (of_decide_eq_true hburst)
  exact ⟨rate, hreads, hpos, reads_ofNat s.burst, one_le_rounded (WithTop.coe_le_coe.mpr hone)⟩

/-! ## Refused requests -/

variable {l : Limit Float} {b : Bucket Float} {rate burst tokens : WithTop ℚ} {now : ℕ}

theorem atMost_one_iff {x : Float} {v : WithTop ℚ} (h : Reads x v) :
    Amount.atMost Bucket.one x = true ↔ 1 ≤ v := by
  show decide (Bucket.one ≤ x) = true ↔ _
  rw [decide_eq_true_iff, reads_bucket_one.le_iff h]
  rfl

theorem reads_refill (h : Accepted l rate burst) (htop : rate ≠ ⊤) (htokens : Reads b.tokens tokens)
    (now : ℕ) : Reads (b.refill l now).tokens
      (min (grownValue tokens rate (secondsValue (now - b.updated))) burst) := by
  have hgrown : Reads (b.grown l now) (grownValue tokens rate (secondsValue (now - b.updated))) :=
    reads_grown htokens h.reads_rate h.rate_pos fun _ => htop
  unfold Bucket.refill Amount.smaller
  split_ifs with hsmall
  · rwa [min_eq_left ((hgrown.le_iff h.reads_burst).mp (of_decide_eq_true hsmall))]
  · have hlarge : ¬ b.grown l now ≤ l.burst := fun hle => hsmall (decide_eq_true hle)
    rw [hgrown.le_iff h.reads_burst, not_le] at hlarge
    rw [min_eq_right hlarge.le]
    exact h.reads_burst

/-- Where tokens come at once, buckets are always full. -/
theorem refill_of_top (h : Accepted l ⊤ burst) (htokens : Reads b.tokens tokens) (now : ℕ) :
    b.refill l now = .full l now := by
  by_cases hseconds : secondsValue (now - b.updated) = 0
  · exact refill_undefined (grown_undefined htokens h.reads_rate hseconds)
  · have hgrown : Reads (b.grown l now) (grownValue tokens ⊤ (secondsValue (now - b.updated))) :=
      reads_grown htokens h.reads_rate h.rate_pos fun hzero => absurd hzero hseconds
    have htop : grownValue tokens ⊤ (secondsValue (now - b.updated)) = ⊤ := by
      unfold grownValue
      rw [WithTop.mul_top hseconds, rounded_top, add_top, rounded_top]
    exact refill_full hgrown h.reads_burst (le_top.trans_eq htop.symm)

/-- The wait for a token, if nothing is rounded but the parts of it. -/
def waitValue (r q : ℚ) : WithTop ℚ :=
  rounded ((nearest (1 - q) / r : ℚ) : WithTop ℚ)

theorem reads_shortage {r q : ℚ} (hrate : Reads l.rate r) (hpos : 0 < r)
    (htokens : Reads b.tokens q) (hlt : q < 1) : Reads (b.shortage l) (waitValue r q) := by
  have hnonneg : 0 ≤ q := WithTop.coe_nonneg.mp htokens.nonneg
  have hsub := reads_bucket_one.sub_coe htokens hlt.le
  have hle : nearest (1 - q) ≤ 1 := (nearest_mono (by linarith) (by linarith)).trans_eq nearest_one
  rw [rounded_coe, if_pos (hle.trans_lt (one_lt_pow₀ one_lt_two (by norm_num)))] at hsub
  have hdiv := hsub.div hrate WithTop.coe_ne_top (WithTop.coe_pos.mpr hpos) WithTop.coe_ne_top
  rw [WithTop.untopD_coe, WithTop.untopD_coe] at hdiv
  exact hdiv

/-- A bucket with less than a token, and the wait for the rest of it. -/
structure Short (l : Limit Float) (b : Bucket Float) (r q : ℚ) : Prop where
  rate_pos : 0 < r
  tokens : Reads b.tokens q
  lt_one : q < 1
  shortage : Reads (b.shortage l) (waitValue r q)

theorem Short.nonneg {r q : ℚ} (h : Short l b r q) : 0 ≤ q :=
  WithTop.coe_nonneg.mp h.tokens.nonneg

/-- What a refused request finds. -/
theorem short_of_refused (h : Accepted l rate burst) (hb : IsAmount b.tokens)
    (hrefused : Amount.atMost Bucket.one (b.refill l now).tokens = false) :
    ∃ r q : ℚ, rate = r ∧ Short l (b.refill l now) r q := by
  obtain ⟨tokens, htokens⟩ := hb
  have htop : rate ≠ ⊤ := by
    rintro rfl
    have hfull : Amount.atMost Bucket.one (b.refill l now).tokens = true := by
      rw [refill_of_top h htokens]
      exact (atMost_one_iff h.reads_burst).mpr h.one_le_burst
    exact absurd (hrefused.symm.trans hfull) Bool.false_ne_true
  obtain ⟨r, rfl⟩ := WithTop.ne_top_iff_exists.mp htop
  have hrefill := reads_refill h htop htokens now
  generalize min (grownValue tokens r (secondsValue (now - b.updated))) burst = v at hrefill
  have hlt : v < 1 := by
    by_contra hnot
    exact absurd (hrefused.symm.trans ((atMost_one_iff hrefill).mpr (not_lt.mp hnot)))
      Bool.false_ne_true
  obtain ⟨q, rfl⟩ := WithTop.ne_top_iff_exists.mp (hlt.trans (WithTop.coe_lt_top 1)).ne
  have hpos : 0 < r := WithTop.coe_pos.mp h.rate_pos
  have hlt' : q < 1 := WithTop.coe_lt_coe.mp hlt
  exact ⟨r, q, rfl, hpos, hrefill, hlt', reads_shortage h.reads_rate hpos hrefill hlt'⟩

/-! ## Waits that are durations -/

theorem isSome_ofSeconds?_iff {x : Float} {v : WithTop ℚ} (h : Reads x v) :
    (Duration.ofSeconds? x).isSome = true ↔ v < ((2 ^ 64 : ℚ) : WithTop ℚ) := by
  cases v with
  | top =>
      rw [h.ofSeconds?_top]
      exact iff_of_false Bool.false_ne_true not_top_lt
  | coe q =>
      rw [h.ofSeconds?_eq, WithTop.coe_lt_coe]
      split_ifs with hlong
      · exact iff_of_false Bool.false_ne_true (not_lt.mpr hlong)
      · exact iff_of_true rfl (not_le.mp hlong)

/-- Nobody waits longer than for a whole token. -/
theorem waitValue_le {r q : ℚ} (hpos : 0 < r) (h0 : 0 ≤ q) (h1 : q ≤ 1) :
    waitValue r q ≤ waitValue r 0 := by
  have hle : nearest (1 - q) ≤ nearest (1 - 0) := nearest_mono (by linarith) (by linarith)
  refine rounded_mono (WithTop.coe_nonneg.mpr (div_nonneg (nearest_nonneg _) hpos.le)) ?_
  exact WithTop.coe_le_coe.mpr (div_le_div_of_nonneg_right hle hpos.le)

/-- A rate above `2 ^ -64` is at least the next number of 53 bits. -/
theorem le_of_two_zpow_lt {r : ℚ} (hr : nearest r = r) (hlt : 2 ^ (-64 : ℤ) < r) :
    2 ^ (-64 : ℤ) + 2 ^ (-117 : ℤ) ≤ r := by
  by_contra hnot
  have hcanonical : Canonical (2 ^ 52) (-116) :=
    ⟨by norm_num, by norm_num, by norm_num, .inl le_rfl⟩
  have hvalue : ((2 ^ 52 : ℕ) : ℚ) * 2 ^ (-116 : ℤ) = 2 ^ (-64 : ℤ) := by norm_num
  have hdown := hcanonical.nearest_add (f := r - 2 ^ (-64 : ℤ)) (by linarith)
    (by norm_num at hnot ⊢; linarith)
  rw [hvalue, add_sub_cancel, hr] at hdown
  exact absurd hdown hlt.ne'

theorem nearest_inv_lt {r : ℚ} (h : 2 ^ (-64 : ℤ) + 2 ^ (-117 : ℤ) ≤ r) :
    nearest (1 / r) < 2 ^ 64 := by
  have hpos : (0 : ℚ) < 2 ^ (-64 : ℤ) + 2 ^ (-117 : ℤ) := by positivity
  have hcanonical : Canonical (2 ^ 53 - 1) 11 :=
    ⟨by norm_num, by norm_num, by norm_num, .inl (by norm_num)⟩
  -- The longest wait is a little more than the last duration of 53 bits.
  obtain ⟨f, hf, hnonneg, hsmall⟩ : ∃ f : ℚ,
      1 / (2 ^ (-64 : ℤ) + 2 ^ (-117 : ℤ)) = ((2 ^ 53 - 1 : ℕ) : ℚ) * 2 ^ (11 : ℤ) + f ∧
        0 ≤ f ∧ 2 * f < 2 ^ (11 : ℤ) :=
    ⟨1 / (2 ^ (-64 : ℤ) + 2 ^ (-117 : ℤ)) - ((2 ^ 53 - 1 : ℕ) : ℚ) * 2 ^ (11 : ℤ),
      by ring, by norm_num, by norm_num⟩
  calc nearest (1 / r)
      ≤ nearest (1 / (2 ^ (-64 : ℤ) + 2 ^ (-117 : ℤ))) :=
        nearest_mono (by positivity) (one_div_le_one_div_of_le hpos h)
    _ = ((2 ^ 53 - 1 : ℕ) : ℚ) * 2 ^ (11 : ℤ) := by rw [hf, hcanonical.nearest_add hnonneg hsmall]
    _ < 2 ^ 64 := by norm_num

/-- A whole token comes within the longest duration if the rate is above `2 ^ -64`. -/
theorem waitValue_zero_lt_iff {r : ℚ} (hpos : 0 < r) (hr : nearest r = r) :
    waitValue r 0 < ((2 ^ 64 : ℚ) : WithTop ℚ) ↔ 2 ^ (-64 : ℤ) < r := by
  have hwait : waitValue r 0 = rounded ((1 / r : ℚ) : WithTop ℚ) := by
    unfold waitValue
    rw [sub_zero, nearest_one]
  rw [hwait]
  constructor
  · intro hlt
    by_contra hle
    have hlong : (2 ^ 64 : ℚ) ≤ 1 / r := by
      have hinv := one_div_le_one_div_of_le hpos (not_lt.mp hle)
      norm_num at hinv ⊢
      exact hinv
    have hrounded :=
      rounded_mono (WithTop.coe_nonneg.mpr (by positivity)) (WithTop.coe_le_coe.mpr hlong)
    rw [rounded_two_pow (by norm_num)] at hrounded
    exact absurd hlt (not_lt.mpr hrounded)
  · intro hlt
    have hshort := nearest_inv_lt (le_of_two_zpow_lt hr hlt)
    rw [rounded_coe, if_pos (hshort.trans (pow_lt_pow_right₀ one_lt_two (by norm_num)))]
    exact WithTop.coe_lt_coe.mpr hshort

/-- One token in `2 ^ 64` seconds. -/
def slowest : Float := 1.0 / 18446744073709551616.0

theorem reads_slowest : Reads slowest ((2 ^ (-64 : ℤ) : ℚ) : WithTop ℚ) := by
  have hunpack : slowest.toModel.unpack = .finite .positive (2 ^ 52) (-116) (by norm_num) := rfl
  have hvalue : ((2 ^ 52 : ℕ) : ℚ) * 2 ^ (-116 : ℤ) = 2 ^ (-64 : ℤ) := by norm_num
  unfold Reads
  rw [hunpack, ← hvalue]
  exact .finite _ (.of_normal le_rfl (by norm_num) (by norm_num)) (by norm_num)

/-! ## Answers -/

/-- Nothing comes in at once. -/
theorem grownValue_zero (h : rounded tokens = tokens) : grownValue tokens rate 0 = tokens := by
  unfold grownValue
  rw [zero_mul, Value.zero.rounded_eq, add_zero, h]

theorem reads_refill_self (h : Accepted l rate burst) (htop : rate ≠ ⊤)
    (htokens : Reads b.tokens tokens) (hle : tokens ≤ burst) :
    Reads (b.refill l b.updated).tokens tokens := by
  have hrefill := reads_refill h htop htokens b.updated
  rwa [Nat.sub_self, secondsValue_zero, grownValue_zero htokens.rounded_eq, min_eq_left hle]
    at hrefill

/-- A refusal has an answer if a whole token comes within the longest duration. -/
theorem acquire_ne_undefined (h : Accepted l rate burst) (hb : IsAmount b.tokens)
    (hfast : ∀ r : ℚ, rate = r → waitValue r 0 < ((2 ^ 64 : ℚ) : WithTop ℚ)) :
    (b.acquire l now).1 ≠ .undefined := by
  cases hone : Amount.atMost Bucket.one (b.refill l now).tokens with
  | true => simp [Bucket.acquire_token hone]
  | false =>
      obtain ⟨r, q, hrate, hshort⟩ := short_of_refused h hb hone
      have hle := waitValue_le hshort.rate_pos hshort.nonneg hshort.lt_one.le
      have hwait := (isSome_ofSeconds?_iff hshort.shortage).mpr (hle.trans_lt (hfast r hrate))
      obtain ⟨nanos, hnanos⟩ := Option.isSome_iff_exists.mp hwait
      have hnanos' : Amount.wait? ((b.refill l now).shortage l) = some nanos := hnanos
      simp [Bucket.acquire_refused hone, hnanos']

/-- Who spends all tokens of a bucket at once and then asks for more gets no answer, if tokens
come slowly. -/
theorem undefined_mem_alone {r : ℚ} {n k : ℕ} (h : Accepted l r (n : ℚ)) (hn : n < 2 ^ 53)
    (hslow : ¬ waitValue r 0 < ((2 ^ 64 : ℚ) : WithTop ℚ)) (hk : k ≤ n)
    (htokens : Reads b.tokens (k : ℚ)) :
    Admission.undefined ∈ alone l (some b) (List.replicate (k + 1) b.updated) := by
  induction k generalizing b with
  | zero =>
      have hrefill := reads_refill_self h WithTop.coe_ne_top htokens
        (WithTop.coe_le_coe.mpr (Nat.cast_le.mpr hk))
      rw [Nat.cast_zero] at hrefill
      have hone : Amount.atMost Bucket.one (b.refill l b.updated).tokens = false := by
        rw [Bool.eq_false_iff, ne_eq, atMost_one_iff hrefill]
        exact not_le.mpr zero_lt_one
      have hshortage := reads_shortage h.reads_rate (WithTop.coe_pos.mp h.rate_pos) hrefill one_pos
      have hwait : Amount.wait? ((b.refill l b.updated).shortage l) = none :=
        Option.not_isSome_iff_eq_none.mp fun hsome =>
          hslow ((isSome_ofSeconds?_iff hshortage).mp hsome)
      rw [List.replicate_succ, alone, Option.getD_some, Bucket.acquire_refused hone, hwait]
      exact List.mem_cons_self
  | succ k ih =>
      have hrefill := reads_refill_self h WithTop.coe_ne_top htokens
        (WithTop.coe_le_coe.mpr (Nat.cast_le.mpr hk))
      have hle : (1 : ℚ) ≤ (k + 1 : ℕ) := by exact_mod_cast Nat.succ_pos k
      have hone : Amount.atMost Bucket.one (b.refill l b.updated).tokens = true :=
        (atMost_one_iff hrefill).mpr (WithTop.coe_le_coe.mpr hle)
      have hrest := hrefill.sub_coe reads_bucket_one hle
      rw [Nat.cast_succ, add_sub_cancel_right, rounded_natCast (by omega)] at hrest
      rw [List.replicate_succ, alone, Option.getD_some, Bucket.acquire_token hone]
      exact List.mem_cons_of_mem _ (ih (b := ⟨_, b.updated⟩) (by omega) hrest)

theorem schedule_replicate {ρ : Type} (key : ρ → String) (now : ℕ) (request : ρ) (n : ℕ) :
    schedule key now (List.replicate n (.request request)) =
      List.replicate n (now, key request) := by
  induction n with
  | zero => rfl
  | succ n ih => rw [List.replicate_succ, List.replicate_succ, schedule, ih]

theorem exists_undefined {ρ : Type} {r : ℚ} {n : ℕ} (h : Accepted l r (n : ℚ)) (hn : n < 2 ^ 53)
    (hslow : ¬ waitValue r 0 < ((2 ^ 64 : ℚ) : WithTop ℚ)) (hregular : l.Regular IsAmount)
    (key : ρ → String) (start : ℕ) (request : ρ) :
    ∃ es, ∃ r ∈ (Watch.mk (ofLimit l) start).replies key es, r.answer = .undefined := by
  have halone := (independent_of_regular hregular key start
    (List.replicate (n + 1) (.request request))).eq_alone (key request)
  have hall : (List.replicate (n + 1) (start, key request)).filter (·.2 = key request) =
      List.replicate (n + 1) (start, key request) :=
    List.filter_replicate_of_pos (decide_eq_true rfl)
  rw [schedule_replicate, hall, List.map_replicate] at halone
  have hmem : Admission.undefined ∈ alone l none (List.replicate (n + 1) start) :=
    undefined_mem_alone (b := .full l start) h hn hslow le_rfl h.reads_burst
  rw [← halone] at hmem
  obtain ⟨reply, hreply, hanswer⟩ := List.mem_map.mp hmem
  exact ⟨_, reply, List.mem_of_mem_filter hreply, hanswer⟩

/-- The waits of a limit are numbers that are not negative, and requests are answered unless
tokens come slowly. -/
structure Answering {ρ : Type} (s : LimitSettings) (key : ρ → String) (start : ℕ) : Prop where
  isAmount_shortage : ∀ es client,
    let w := (Watch.mk (ofLimit s.limit) start).run key es
    let b := ((w.limiter.bucket? client).getD (.full s.limit w.now)).refill s.limit w.now
    Amount.atMost Bucket.one b.tokens = false → IsAmount (b.shortage s.limit)
  answers_iff : (∀ es, ∀ r ∈ (Watch.mk (ofLimit s.limit) start).replies key es,
    r.answer ≠ .undefined) ↔ ¬ s.rate ≤ slowest

/-- The gateway accepts limits under which some requests have no answer, namely those with a
token in `2 ^ 64` seconds or more. -/
theorem answering_of_isValid {ρ : Type} [Nonempty ρ] (s : LimitSettings) (hvalid : s.isValid = true)
    (hword : s.burst < 2 ^ 32) (key : ρ → String) (start : ℕ) : Answering s key start := by
  have hregular := regular_of_isValid hvalid
  have hmirrors := mirrors_ofLimit s.limit IsAmount start
  have hburst : s.burst < 2 ^ 53 := hword.trans (by norm_num)
  obtain ⟨rate, haccepted⟩ := accepted_of_isValid hvalid
  rw [rounded_natCast hburst] at haccepted
  constructor
  · intro es client w b hrefused
    obtain ⟨shelf, hrun, -⟩ := hmirrors.run hregular key es
    have hb := hrun.sound_getD hregular.burst client w.now
    obtain ⟨r, q, -, hshort⟩ := short_of_refused haccepted hb hrefused
    exact ⟨_, hshort.shortage⟩
  · have hrate : s.rate ≤ slowest ↔ rate ≤ ((2 ^ (-64 : ℤ) : ℚ) : WithTop ℚ) :=
      haccepted.reads_rate.le_iff reads_slowest
    rw [hrate]
    constructor
    · intro hanswers hle
      obtain ⟨r, rfl⟩ := WithTop.ne_top_iff_exists.mp (hle.trans_lt (WithTop.coe_lt_top _)).ne
      have hslow := mt (waitValue_zero_lt_iff (WithTop.coe_pos.mp haccepted.rate_pos)
        haccepted.reads_rate.nearest_eq).mp (not_lt.mpr (WithTop.coe_le_coe.mp hle))
      obtain ⟨es, reply, hreply, hundefined⟩ := exists_undefined haccepted hburst hslow hregular key
        start (Classical.arbitrary ρ)
      exact hanswers es reply hreply hundefined
    · intro hfast es reply hreply hundefined
      obtain ⟨b, hb, hanswer⟩ := hmirrors.exists_bucket hregular key es reply hreply
      have hgrant : (b.acquire s.limit reply.time).1 ≠ .undefined := by
        refine acquire_ne_undefined haccepted hb fun r hr => ?_
        subst hr
        exact (waitValue_zero_lt_iff (WithTop.coe_pos.mp haccepted.rate_pos)
          haccepted.reads_rate.nearest_eq).mpr (not_le.mp (mt WithTop.coe_le_coe.mpr hfast))
      exact hgrant (verdict_eq_undefined_iff.mp (hanswer.symm.trans hundefined))

/-- Half a token comes in each second, and two of them fit into a bucket. -/
theorem answering_of_isValid_halves :
    (LimitSettings.mk 0.5 2).isValid = true ∧ 2 < 2 ^ 32 ∧ Nonempty String ∧
      Answering (LimitSettings.mk 0.5 2) (id : String → String) 0 := by
  have hvalid : (LimitSettings.mk 0.5 2).isValid = true := by decide +kernel
  have hword : 2 < 2 ^ 32 := by norm_num
  exact ⟨hvalid, hword, ⟨""⟩, answering_of_isValid _ hvalid hword id 0⟩

/-- A token comes in 10 ^ 20 seconds, and a client that has spent one asks for another. -/
theorem unanswered_slow :
    (LimitSettings.mk 1e-20 1).isValid = true ∧
      ((Watch.mk (ofLimit (LimitSettings.mk 1e-20 1).limit) 0).replies id
        [.request "a", .request "a"]).map (·.answer) = [.pass, .undefined] := by
  decide +kernel

end Gateway.Limiter
