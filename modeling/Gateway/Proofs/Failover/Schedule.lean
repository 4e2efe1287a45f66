import Gateway.Config.Decode
import Gateway.Proofs.Failover.Jitter

/-!
# The schedule of rests

The rests of a request double from the base on until they come to a limit, which is the
base itself if that is larger than what is set. Powers and products are cut off at the
largest 64-bit number, which no limit exceeds, so the cut never shows.
-/

namespace Gateway

open Settings

namespace FailoverPolicy

/-- The times of the policy are 64-bit numbers. -/
structure Fits (p : FailoverPolicy) : Prop where
  base_small : p.backoffBase ≤ maxMillis
  max_small : p.backoffMax ≤ maxMillis

theorem natOfBits?_lt {σ : Type} [Settings σ] {bits n : ℕ} {s : σ}
    (h : natOfBits? bits s = some n) : n < 2 ^ bits := by
  have hfilter := (Option.filter_eq_some_iff.mp h).2
  exact of_decide_eq_true hfilter

theorem withDefault_le {σ : Type} [Settings σ] {m : Members σ} {name : String} {d n : ℕ}
    (hd : d ≤ maxMillis) (h : m.withDefault name d (natOfBits? 64) = some n) : n ≤ maxMillis := by
  unfold Members.withDefault at h
  split at h
  · exact Nat.le_pred_of_lt (natOfBits?_lt h)
  · obtain rfl : d = n := Option.some.inj h
    exact hd

/-- Settings with a time that does not fit are not read. -/
theorem fits_of_settings {σ : Type} [Settings σ] {s : σ} {p : FailoverPolicy}
    (h : ofSettings? s = some p) : p.Fits := by
  simp only [ofSettings?, Option.bind_eq_bind, Option.bind_eq_some_iff, Option.some.injEq] at h
  obtain ⟨m, -, attempts, -, statuses, -, base, hbase, limit, hlimit, rfl⟩ := h
  exact ⟨withDefault_le (by decide) hbase, withDefault_le (by decide) hlimit⟩

/-! ## The cut at 64 bits -/

theorem powerOfTwo_eq (n : ℕ) : powerOfTwo n = min (2 ^ n) maxMillis := by
  unfold powerOfTwo
  split_ifs with hlt
  · have hle : 2 ^ n ≤ 2 ^ 63 := Nat.pow_le_pow_right two_pos (Nat.le_of_lt_succ hlt)
    exact (min_eq_left (hle.trans (by decide))).symm
  · have hle : 2 ^ 64 ≤ 2 ^ n := Nat.pow_le_pow_right two_pos (not_lt.mp hlt)
    exact (min_eq_right ((Nat.sub_le _ _).trans hle)).symm

/-- The longest rest. -/
def limit (p : FailoverPolicy) : ℕ :=
  max p.backoffMax p.backoffBase

/-- The rest after attempt `no`, in numbers of any size. -/
def scheduled (p : FailoverPolicy) (no : ℕ) : ℕ :=
  min (p.backoffBase * 2 ^ (no - 1)) p.limit

variable {p : FailoverPolicy}

theorem capped_le_maxMillis (p : FailoverPolicy) (no : ℕ) : p.capped no ≤ maxMillis :=
  (min_le_left _ _).trans (min_le_right _ _)

/-- What is cut off lies beyond 64 bits anyway. -/
theorem capped_eq_min (p : FailoverPolicy) (no : ℕ) :
    p.capped no = min (p.scheduled no) maxMillis := by
  unfold capped scheduled limit
  rw [powerOfTwo_eq, ← Nat.mul_min_mul_left]
  rcases Nat.eq_zero_or_pos p.backoffBase with hzero | hpos
  · simp only [hzero, zero_mul, min_self, zero_min]
  · have hle : maxMillis ≤ p.backoffBase * maxMillis := Nat.le_mul_of_pos_left _ hpos
    rw [min_assoc (p.backoffBase * _), min_eq_right hle, min_right_comm]

theorem Fits.limit_le (hp : p.Fits) : p.limit ≤ maxMillis :=
  max_le hp.max_small hp.base_small

/-- Saturation is not seen. -/
theorem Fits.capped_eq (hp : p.Fits) (no : ℕ) : p.capped no = p.scheduled no := by
  have hle : p.scheduled no ≤ maxMillis := (min_le_right _ _).trans hp.limit_le
  rw [capped_eq_min, min_eq_left hle]

/-! ## The schedule -/

theorem scheduled_mono (p : FailoverPolicy) : Monotone p.scheduled := by
  intro no no' hle
  have hpow : 2 ^ (no - 1) ≤ 2 ^ (no' - 1) :=
    Nat.pow_le_pow_right two_pos (Nat.sub_le_sub_right hle 1)
  exact min_le_min_right _ (Nat.mul_le_mul_left _ hpow)

theorem base_le_scheduled (p : FailoverPolicy) (no : ℕ) : p.backoffBase ≤ p.scheduled no :=
  le_min (Nat.le_mul_of_pos_right _ (Nat.two_pow_pos _)) (le_max_right _ _)

/-- After 64 attempts every limit is reached. -/
theorem Fits.scheduled_eq_limit (hp : p.Fits) (hbase : 0 < p.backoffBase) {no : ℕ} (hno : 64 < no) :
    p.scheduled no = p.limit := by
  have hpow : 2 ^ 64 ≤ 2 ^ (no - 1) := Nat.pow_le_pow_right two_pos (Nat.le_pred_of_lt hno)
  refine min_eq_right (hp.limit_le.trans ((Nat.sub_le _ _).trans (hpow.trans ?_)))
  exact Nat.le_mul_of_pos_left _ hbase

theorem backoff_eq_restWith (hbase : 0 < p.backoffBase) {no : ℕ} (hno : 1 ≤ no) (x : Float) :
    p.backoff x no = p.restWith (jitter x (p.capped no)) no := by
  have hrests : p.rests no = true := by
    simp [rests, hbase.ne', Nat.one_le_iff_ne_zero.mp hno]
  exact if_pos hrests

theorem restWith_ne_overflow {j no : ℕ} (h : p.restWith j no ≠ .overflow) :
    p.restWith j no = .millis (p.capped no + j) := by
  unfold restWith at h ⊢
  split_ifs at h ⊢
  · exact absurd rfl h
  · rfl

theorem restWith_zero (p : FailoverPolicy) (no : ℕ) : p.restWith 0 no = .millis (p.capped no) :=
  if_neg (not_lt.mpr (capped_le_maxMillis p no))

/-- The rests of a request, one after each attempt. -/
structure Doubling (p : FailoverPolicy) : Prop where
  /-- Without a jitter, a rest is exactly as long as it is scheduled. -/
  plain : ∀ no, 1 ≤ no → p.backoff 0.0 no = .millis (p.scheduled no)
  base_le : ∀ no, p.backoffBase ≤ p.scheduled no
  mono : Monotone p.scheduled
  /-- Once the limit is reached, rests do not change any more. -/
  settled : ∀ no no', no ≤ no' → p.scheduled no = p.limit → p.scheduled no' = p.limit
  reached : ∀ no, 64 < no → p.scheduled no = p.limit
  /-- A jitter leads beyond what is scheduled by no more than a quarter of it. -/
  jittered : ∀ no j, 1 ≤ no → j ≤ p.scheduled no / 4 → p.restWith j no ≠ .overflow →
    ∃ rest, p.restWith j no = .millis rest ∧
      p.scheduled no ≤ rest ∧ rest ≤ p.scheduled no + p.scheduled no / 4
  /-- Every jitter that is drawn is one of these. -/
  drawn : ∀ no x, 1 ≤ no → IsDraw x →
    ∃ j, j ≤ p.scheduled no / 4 ∧ p.backoff x no = p.restWith j no

/-- Rests double up to their limit, though they are computed in 64 bits. -/
theorem doubling_of_fits (hbase : 0 < p.backoffBase) (hp : p.Fits) : p.Doubling where
  plain := by
    intro no hno
    rw [backoff_eq_restWith hbase hno, jitter_zero (capped_le_maxMillis p no), restWith_zero,
      hp.capped_eq]
  base_le := base_le_scheduled p
  mono := scheduled_mono p
  settled := by
    intro no no' hle hreached
    exact le_antisymm (min_le_right _ _) (hreached.symm.trans_le (scheduled_mono p hle))
  reached := by
    intro no hno
    exact hp.scheduled_eq_limit hbase hno
  jittered := by
    intro no j _ hj hfits
    rw [restWith_ne_overflow hfits, hp.capped_eq]
    exact ⟨_, rfl, Nat.le_add_right _ _, Nat.add_le_add_left hj _⟩
  drawn := by
    intro no x hno hx
    have hquarter := jitter_le_quarter hx (capped_le_maxMillis p no)
    rw [hp.capped_eq] at hquarter
    refine ⟨_, hquarter, ?_⟩
    rw [backoff_eq_restWith hbase hno, hp.capped_eq]

/-- Here both the power and the product are cut off. -/
theorem doubling_threefold : 0 < 3 ∧
    Fits { backoffBase := 3, backoffMax := maxMillis } ∧
    Doubling { backoffBase := 3, backoffMax := maxMillis } := by
  have hfits : Fits { backoffBase := 3, backoffMax := maxMillis } := ⟨by decide, le_rfl⟩
  exact ⟨by decide, hfits, doubling_of_fits (by decide) hfits⟩

end FailoverPolicy

end Gateway
