import Gateway.Config.Build
import Gateway.Config.Validate
import Gateway.Proofs.Binary64.Seconds
import Gateway.Proofs.Limit.Independence

/-!
# Buckets in floating point

The tokens of a bucket are a floating point number that is not negative. However the
seconds, their product with the rate and the sum with the tokens are rounded, a bucket
that is full stays full. An infinite rate does not fill a bucket in no time: the product
is undefined then, and the bucket is full all the same.
-/

namespace Gateway.Limiter

open Binary64

/-- A number that is not negative. -/
def IsAmount (x : Float) : Prop :=
  ∃ v, Reads x v

/-! ## Growth -/

/-- The value of the tokens after some seconds. -/
def grownValue (tokens rate seconds : WithTop ℚ) : WithTop ℚ :=
  rounded (tokens + rounded (seconds * rate))

theorem mul_rate_mono {rate seconds seconds' : WithTop ℚ} (hnonneg : 0 ≤ seconds)
    (hle : seconds ≤ seconds') (hrate : 0 < rate) : seconds * rate ≤ seconds' * rate := by
  by_cases htop : rate = ⊤
  · subst htop
    rcases hnonneg.eq_or_lt with rfl | hpos
    · rw [zero_mul, WithTop.mul_top']
      split_ifs
      · exact le_rfl
      · exact le_top
    · rw [WithTop.mul_top (hpos.trans_le hle).ne']
      exact le_top
  · exact (WithTop.mul_left_strictMono hrate htop).monotone hle

theorem mul_rate_nonneg {rate seconds : WithTop ℚ} (hnonneg : 0 ≤ seconds) (hrate : 0 < rate) :
    0 ≤ seconds * rate := by
  simpa using mul_rate_mono le_rfl hnonneg hrate

theorem rounded_nonneg {v : WithTop ℚ} (h : 0 ≤ v) : 0 ≤ rounded v := by
  rw [← Value.zero.rounded_eq]
  exact rounded_mono le_rfl h

theorem grownValue_mono {tokens rate seconds seconds' : WithTop ℚ} (htokens : 0 ≤ tokens)
    (hnonneg : 0 ≤ seconds) (hle : seconds ≤ seconds') (hrate : 0 < rate) :
    grownValue tokens rate seconds ≤ grownValue tokens rate seconds' := by
  have hmul := rounded_nonneg (mul_rate_nonneg hnonneg hrate)
  have hgrowth := rounded_mono (mul_rate_nonneg hnonneg hrate) (mul_rate_mono hnonneg hle hrate)
  exact rounded_mono (add_nonneg htokens hmul) (by gcongr)

/-- Tokens do not get fewer. -/
theorem le_grownValue {tokens rate seconds : WithTop ℚ} (htokens : 0 ≤ tokens)
    (heq : rounded tokens = tokens) (hnonneg : 0 ≤ seconds) (hrate : 0 < rate) :
    tokens ≤ grownValue tokens rate seconds := by
  have hmul := rounded_nonneg (mul_rate_nonneg hnonneg hrate)
  conv_lhs => rw [← heq]
  exact rounded_mono htokens (le_add_of_nonneg_right hmul)

/-! ## Buckets -/

section

variable {l : Limit Float} {b : Bucket Float} {tokens rate burst : WithTop ℚ}

theorem reads_grown (htokens : Reads b.tokens tokens) (hrate : Reads l.rate rate) (hpos : 0 < rate)
    {now : Nat} (hdefined : secondsValue (now - b.updated) = 0 → rate ≠ ⊤) :
    Reads (b.grown l now) (grownValue tokens rate (secondsValue (now - b.updated))) :=
  htokens.add ((reads_toSeconds _).mul hrate hdefined fun _ => hpos.ne')

theorem grown_undefined (htokens : Reads b.tokens tokens) (hrate : Reads l.rate ⊤) {now : Nat}
    (hseconds : secondsValue (now - b.updated) = 0) :
    (b.grown l now).toModel.unpack = .notANumber :=
  add_undefined htokens (mul_undefined (hseconds ▸ reads_toSeconds (now - b.updated)) hrate)

theorem refill_undefined {now : Nat} (h : (b.grown l now).toModel.unpack = .notANumber) :
    b.refill l now = .full l now := by
  have hnot : Amount.atMost (b.grown l now) l.burst = false :=
    decide_eq_false (not_le_of_undefined h _)
  unfold Bucket.refill Amount.smaller
  rw [hnot]
  rfl

/-- A bucket that has grown to the capacity is full. -/
theorem refill_full {now : Nat} {grown : WithTop ℚ} (hgrown : Reads (b.grown l now) grown)
    (hburst : Reads l.burst burst) (hle : burst ≤ grown) : b.refill l now = .full l now := by
  unfold Bucket.refill Amount.smaller
  split_ifs with hsmall
  · have hge : grown ≤ burst := (hgrown.le_iff hburst).mp (of_decide_eq_true hsmall)
    have heq : grown = burst := le_antisymm hge hle
    rw [hgrown.unique (heq ▸ hburst)]
    rfl
  · rfl

theorem isAmount_refill (hb : IsAmount b.tokens) (hrate : Reads l.rate rate) (hpos : 0 < rate)
    (hburst : Reads l.burst burst) (now : Nat) : IsAmount (b.refill l now).tokens := by
  obtain ⟨tokens, htokens⟩ := hb
  by_cases hdefined : secondsValue (now - b.updated) = 0 → rate ≠ ⊤
  · unfold Bucket.refill Amount.smaller
    split_ifs
    · exact ⟨_, reads_grown htokens hrate hpos hdefined⟩
    · exact ⟨_, hburst⟩
  · rw [Classical.not_imp, not_not] at hdefined
    obtain ⟨hseconds, rfl⟩ := hdefined
    rw [refill_undefined (grown_undefined htokens hrate hseconds)]
    exact ⟨_, hburst⟩

theorem reads_bucket_one : Reads Bucket.one ((1 : ℚ) : WithTop ℚ) := by
  have hreads := reads_ofNat 1
  rw [rounded_natCast (by norm_num), Nat.cast_one] at hreads
  exact hreads

theorem isAmount_acquire (hb : IsAmount b.tokens) (hrate : Reads l.rate rate) (hpos : 0 < rate)
    (hburst : Reads l.burst burst) (now : Nat) : IsAmount (b.acquire l now).2.tokens := by
  have hrefill := isAmount_refill hb hrate hpos hburst now
  unfold Bucket.acquire
  generalize b.refill l now = refilled at hrefill ⊢
  obtain ⟨tokens, htokens⟩ := hrefill
  dsimp only
  split_ifs with htoken
  · have hle := (reads_bucket_one.le_iff htokens).mp (of_decide_eq_true htoken)
    exact htokens.sub reads_bucket_one (WithTop.coe_pos.mpr one_pos) WithTop.coe_ne_top hle
  · split
    · exact ⟨tokens, htokens⟩
    · exact ⟨tokens, htokens⟩

/-- A bucket that is found full at some time is full at every later time. -/
theorem fullFrom_of_isFull (htokens : Reads b.tokens tokens) (hrate : Reads l.rate rate)
    (hpos : 0 < rate) (hburst : Reads l.burst burst) {now : Nat} (hfull : b.isFull l now = true) :
    b.FullFrom l now := by
  have hfull' : l.burst ≤ b.grown l now := of_decide_eq_true hfull
  -- What compares with the capacity is defined, and remains so.
  have hdefined : secondsValue (now - b.updated) = 0 → rate ≠ ⊤ := by
    rintro hseconds rfl
    exact not_ge_of_undefined (grown_undefined htokens hrate hseconds) _ hfull'
  intro later hlater
  have hmono : secondsValue (now - b.updated) ≤ secondsValue (later - b.updated) :=
    secondsValue_mono (Nat.sub_le_sub_right hlater _)
  have hnonneg := (reads_toSeconds (now - b.updated)).nonneg
  have hdefined' : secondsValue (later - b.updated) = 0 → rate ≠ ⊤ :=
    fun hzero => hdefined (le_antisymm (hmono.trans_eq hzero) hnonneg)
  have hle := (hburst.le_iff (reads_grown htokens hrate hpos hdefined)).mp hfull'
  exact refill_full (reads_grown htokens hrate hpos hdefined') hburst
    (hle.trans (grownValue_mono htokens.nonneg hnonneg hmono hpos))

theorem fullFrom_full (hrate : Reads l.rate rate) (hpos : 0 < rate) (hburst : Reads l.burst burst)
    (now : Nat) : (Bucket.full l now).FullFrom l now := by
  intro later _
  have htokens : Reads (Bucket.full l now).tokens burst := hburst
  generalize Bucket.full l now = b at htokens
  by_cases hdefined : secondsValue (later - b.updated) = 0 → rate ≠ ⊤
  · have hnonneg := (reads_toSeconds (later - b.updated)).nonneg
    exact refill_full (reads_grown htokens hrate hpos hdefined) hburst
      (le_grownValue htokens.nonneg htokens.rounded_eq hnonneg hpos)
  · rw [Classical.not_imp, not_not] at hdefined
    obtain ⟨hseconds, rfl⟩ := hdefined
    exact refill_undefined (grown_undefined htokens hrate hseconds)

end

/-- The limits that the gateway accepts obey the laws of refilling. -/
theorem regular_of_isValid {s : LimitSettings} (h : s.isValid = true) :
    s.limit.Regular IsAmount := by
  have hpositive : 0.0 < s.rate := of_decide_eq_true (Bool.and_eq_true_iff.mp h).1
  obtain ⟨rate, hreads, hpos⟩ := Reads.of_pos hpositive
  have hrate : Reads s.limit.rate rate := hreads
  have hburst : Reads s.limit.burst (rounded ((s.burst : ℚ) : WithTop ℚ)) := reads_ofNat s.burst
  generalize s.limit = l at hrate hburst
  constructor
  · exact fullFrom_full hrate hpos hburst
  · intro b hb
    exact isAmount_acquire hb hrate hpos hburst
  · exact ⟨_, hburst⟩
  · rintro b ⟨tokens, htokens⟩ now
    exact fullFrom_of_isFull htokens hrate hpos hburst

/-- Neither other clients nor the dropping of buckets change what a client is told. -/
theorem independent_of_isValid {ρ : Type} (s : LimitSettings) (h : s.isValid = true)
    (key : ρ → String) (start : Nat) (es : List (Event ρ)) :
    Independent s.limit key start es ((Watch.mk (ofLimit s.limit) start).replies key es) :=
  independent_of_regular (regular_of_isValid h) key start es

/-- Two clients share a limiter that drops a full bucket between requests. -/
theorem independent_of_isValid_two_clients :
    (LimitSettings.mk 0.5 2).isValid = true ∧
      Independent (LimitSettings.mk 0.5 2).limit id 0
        [.request "a", .request "b", .request "a", .request "a", .wait (8 * Duration.second),
          .sweep, .request "a"]
        ((Watch.mk (ofLimit (LimitSettings.mk 0.5 2).limit) 0).replies id
          [.request "a", .request "b", .request "a", .request "a", .wait (8 * Duration.second),
            .sweep, .request "a"]) := by
  have hvalid : (LimitSettings.mk 0.5 2).isValid = true := by decide +kernel
  exact ⟨hvalid, independent_of_isValid _ hvalid id 0 _⟩

end Gateway.Limiter
