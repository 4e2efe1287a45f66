import Gateway.Proofs.Binary64.Nearest
import Gateway.Proofs.Limit.Independence

/-!
# Buckets in exact arithmetic

Where tokens and seconds are rational numbers, only the waits that clients are told are
rounded. A bucket then holds what it had and what came in since, at most its capacity, and
it does not matter whether it was refilled in between.
-/

namespace Gateway

/-- Waits are rounded to the nearest nanosecond, and up to whole seconds of 64 bits. -/
instance : Amount ℚ where
  ofNat n := n
  seconds nanos := nanos / Duration.second
  add := (· + ·)
  sub := (· - ·)
  mul := (· * ·)
  div := (· / ·)
  atMost x y := x ≤ y
  wait? x :=
    if 0 ≤ x ∧ Binary64.toEven (x * Duration.second) < Duration.secondsLimit * Duration.second then
      some (Binary64.toEven (x * Duration.second))
    else none
  wholeSeconds nanos := min ⌈(nanos / Duration.second : ℚ)⌉₊ (2 ^ 64 - 1)

/-- An amount that fits into the buckets of a limit. -/
def Limit.Holds (l : Limit ℚ) (tokens : ℚ) : Prop :=
  0 ≤ tokens ∧ tokens ≤ l.burst

theorem seconds_nonneg (nanos : ℕ) : (0 : ℚ) ≤ Amount.seconds nanos :=
  div_nonneg (Nat.cast_nonneg _) (Nat.cast_nonneg _)

theorem seconds_mono : Monotone (Amount.seconds : ℕ → ℚ) := by
  intro a b h
  exact div_le_div_of_nonneg_right (Nat.cast_le.mpr h) (Nat.cast_nonneg _)

theorem seconds_sub {a b : ℕ} (h : a ≤ b) :
    (Amount.seconds (b - a) : ℚ) = Amount.seconds b - Amount.seconds a := by
  show ((b - a : ℕ) : ℚ) / _ = b / _ - a / _
  rw [Nat.cast_sub h, sub_div]

namespace Bucket

variable {l : Limit ℚ} {b : Bucket ℚ} {now later : ℕ}

/-! ## Refilling -/

theorem grown_eq (l : Limit ℚ) (b : Bucket ℚ) (now : ℕ) :
    b.grown l now = b.tokens + Amount.seconds (now - b.updated) * l.rate :=
  rfl

theorem refill_eq (l : Limit ℚ) (b : Bucket ℚ) (now : ℕ) :
    b.refill l now = ⟨min (b.grown l now) l.burst, now⟩ := by
  have hsmaller : Amount.smaller (b.grown l now) l.burst = min (b.grown l now) l.burst := by
    rw [min_def]
    exact if_congr decide_eq_true_iff rfl rfl
  unfold refill
  rw [hsmaller]

@[simp] theorem updated_refill (l : Limit ℚ) (b : Bucket ℚ) (now : ℕ) :
    (b.refill l now).updated = now :=
  rfl

theorem tokens_refill (l : Limit ℚ) (b : Bucket ℚ) (now : ℕ) :
    (b.refill l now).tokens = min (b.grown l now) l.burst := by
  rw [refill_eq]

theorem le_grown (hrate : 0 ≤ l.rate) : b.tokens ≤ b.grown l now :=
  le_add_of_nonneg_right (mul_nonneg (seconds_nonneg _) hrate)

theorem grown_mono (hrate : 0 ≤ l.rate) : Monotone (b.grown l) := by
  intro now later h
  have hseconds : (Amount.seconds (now - b.updated) : ℚ) ≤ Amount.seconds (later - b.updated) :=
    seconds_mono (Nat.sub_le_sub_right h _)
  exact add_le_add_right (mul_le_mul_of_nonneg_right hseconds hrate) _

/-- What comes in during some time depends on this time alone. -/
theorem grown_later (hupdated : b.updated ≤ now) (hle : now ≤ later) :
    b.grown l later = b.grown l now + Amount.seconds (later - now) * l.rate := by
  rw [grown_eq, grown_eq, seconds_sub (hupdated.trans hle), seconds_sub hupdated, seconds_sub hle]
  ring

theorem refill_of_le (h : l.burst ≤ b.grown l now) : b.refill l now = full l now := by
  rw [refill_eq, min_eq_right h]
  rfl

/-- Nothing comes in at once. -/
theorem refill_self (h : b.tokens ≤ l.burst) : b.refill l b.updated = b := by
  have hgrown : b.grown l b.updated = b.tokens := by
    show b.tokens + ((b.updated - b.updated : ℕ) : ℚ) / Duration.second * l.rate = b.tokens
    rw [Nat.sub_self, Nat.cast_zero, zero_div, zero_mul, add_zero]
  rw [refill_eq, hgrown, min_eq_left h]

/-- Refilling in between changes nothing. -/
theorem refill_refill (hrate : 0 ≤ l.rate) (hupdated : b.updated ≤ now) (hle : now ≤ later) :
    (b.refill l now).refill l later = b.refill l later := by
  have hgrowth : 0 ≤ Amount.seconds (later - now) * l.rate := mul_nonneg (seconds_nonneg _) hrate
  have hgrown : (b.refill l now).grown l later =
      min (b.grown l now) l.burst + Amount.seconds (later - now) * l.rate := by
    rw [grown_eq, tokens_refill, updated_refill]
  rw [refill_eq l (b.refill l now), hgrown, refill_eq l b later, grown_later hupdated hle,
    ← min_add_add_right, min_assoc, min_eq_right (le_add_of_nonneg_right hgrowth)]

theorem holds_refill (hrate : 0 ≤ l.rate) (hb : l.Holds b.tokens) (now : ℕ) :
    l.Holds (b.refill l now).tokens := by
  rw [tokens_refill]
  exact ⟨le_min (hb.1.trans (le_grown hrate)) (hb.1.trans hb.2), min_le_right _ _⟩

theorem fullFrom_of_le (hrate : 0 ≤ l.rate) (h : l.burst ≤ b.grown l now) : b.FullFrom l now := by
  intro later hlater
  exact refill_of_le (h.trans (grown_mono hrate hlater))

theorem full_fullFrom (hrate : 0 ≤ l.rate) (now : ℕ) : (full l now).FullFrom l now :=
  fullFrom_of_le hrate (le_grown hrate)

/-! ## Requests -/

theorem atMost_one (x : ℚ) : Amount.atMost one x = decide (1 ≤ x) := by
  show decide (((1 : ℕ) : ℚ) ≤ x) = _
  rw [Nat.cast_one]

theorem acquire_of_le (h : 1 ≤ (b.refill l now).tokens) :
    b.acquire l now = (.token, ⟨(b.refill l now).tokens - 1, now⟩) := by
  rw [acquire_token (by rw [atMost_one, decide_eq_true h])]
  show (Grant.token, (⟨(b.refill l now).tokens - ((1 : ℕ) : ℚ), now⟩ : Bucket ℚ)) = _
  rw [Nat.cast_one]

theorem acquire_of_lt (h : (b.refill l now).tokens < 1) : (b.acquire l now).2 = b.refill l now := by
  rw [acquire_refused (by rw [atMost_one, decide_eq_false (not_le.mpr h)])]

theorem acquire_token_iff : (b.acquire l now).1 = .token ↔ 1 ≤ (b.refill l now).tokens := by
  rw [acquire_fst_eq_token_iff, atMost_one, decide_eq_true_iff]

theorem updated_acquire (l : Limit ℚ) (b : Bucket ℚ) (now : ℕ) :
    (b.acquire l now).2.updated = now := by
  by_cases h : 1 ≤ (b.refill l now).tokens
  · rw [acquire_of_le h]
  · rw [acquire_of_lt (not_le.mp h), updated_refill]

/-- The bucket holds what fits, and was last refilled before some time. -/
structure Kept (l : Limit ℚ) (now : ℕ) (b : Bucket ℚ) : Prop where
  holds : l.Holds b.tokens
  updated : b.updated ≤ now

theorem Kept.mono (h : b.Kept l now) (hle : now ≤ later) : b.Kept l later :=
  ⟨h.holds, h.updated.trans hle⟩

theorem kept_full (hburst : 0 ≤ l.burst) (now : ℕ) : (full l now).Kept l now :=
  ⟨⟨hburst, le_rfl⟩, le_rfl⟩

theorem kept_acquire (hrate : 0 ≤ l.rate) (hb : l.Holds b.tokens) :
    (b.acquire l now).2.Kept l now := by
  have hrefill := holds_refill hrate hb now
  constructor
  · by_cases h : 1 ≤ (b.refill l now).tokens
    · rw [acquire_of_le h]
      exact ⟨sub_nonneg.mpr h, (sub_le_self _ zero_le_one).trans hrefill.2⟩
    · rw [acquire_of_lt (not_le.mp h)]
      exact hrefill
  · exact (updated_acquire l b now).le

end Bucket

namespace Limiter

variable {l : Limit ℚ} {b : Option (Bucket ℚ)} {now later : ℕ}

/-- The bucket of a client at some time. A client without a bucket has a full one. -/
def stock (l : Limit ℚ) (b : Option (Bucket ℚ)) (now : ℕ) : Bucket ℚ :=
  (b.getD (.full l now)).refill l now

theorem stock_some (l : Limit ℚ) (b : Bucket ℚ) (now : ℕ) : stock l (some b) now = b.refill l now :=
  rfl

theorem stock_none (hrate : 0 ≤ l.rate) (now : ℕ) : stock l none now = .full l now :=
  Bucket.full_fullFrom hrate now now le_rfl

theorem kept_getD (hburst : 0 ≤ l.burst) (h : ∀ x, b = some x → x.Kept l now) :
    (b.getD (.full l now)).Kept l now := by
  cases b with
  | none => exact Bucket.kept_full hburst now
  | some x => exact h x rfl

/-- A client has the same later whether or not its bucket is refilled now. -/
theorem stock_refilled (hrate : 0 ≤ l.rate) (h : ∀ x, b = some x → x.updated ≤ now)
    (hle : now ≤ later) : stock l (some (stock l b now)) later = stock l b later := by
  cases b with
  | none =>
      rw [stock_none hrate, stock_none hrate, stock_some]
      exact Bucket.full_fullFrom hrate now later hle
  | some x => exact Bucket.refill_refill hrate (h x rfl) hle

end Limiter

/-- Nobody notices when full buckets are dropped. -/
theorem Limit.regular_of_nonneg {l : Limit ℚ} (hrate : 0 ≤ l.rate) (hburst : 0 ≤ l.burst) :
    l.Regular l.Holds where
  full := Bucket.full_fullFrom hrate
  acquire _ hb _ := (Bucket.kept_acquire hrate hb).holds
  burst := ⟨hburst, le_rfl⟩
  isFull _ _ _ hfull := Bucket.fullFrom_of_le hrate (of_decide_eq_true hfull)

end Gateway
