import Gateway.Proofs.Binary64.Seconds

/-!
# What rounding leaves

A normal number loses at most one part in `2 ^ 53` when it is rounded. So a few operations
lose a few parts, however they are rounded.
-/

namespace Gateway.Binary64

/-! ## Rounding once -/

theorem le_toEven_add_half (q : ℚ) : q ≤ toEven q + 1 / 2 := by
  have hfloor := Nat.lt_floor_add_one q
  unfold toEven
  split_ifs with hlo hhi
  · linarith
  · push_cast
    linarith
  · have hodd : (0 : ℚ) ≤ ((⌊q⌋₊ % 2 : ℕ) : ℚ) := Nat.cast_nonneg _
    push_cast at hodd ⊢
    linarith

/-- Zero, or a number that is not too small for 53 bits. -/
def IsNormal (q : ℚ) : Prop :=
  q = 0 ∨ 2 ^ (-1022 : ℤ) ≤ q

theorem isNormal_of_le {q : ℚ} (h : 2 ^ (-100 : ℤ) ≤ q) : IsNormal q :=
  .inr ((zpow_le_zpow_right₀ one_le_two (by norm_num)).trans h)

theorem isNormal_natCast (n : ℕ) : IsNormal n := by
  rcases Nat.eq_zero_or_pos n with rfl | hpos
  · exact .inl Nat.cast_zero
  · have hone : (1 : ℚ) ≤ n := by exact_mod_cast hpos
    exact isNormal_of_le ((zpow_le_one_of_nonpos₀ one_le_two (by norm_num)).trans hone)

theorem IsNormal.nonneg {q : ℚ} (h : IsNormal q) : 0 ≤ q := by
  rcases h with rfl | hle
  · exact le_rfl
  · exact (two_zpow_pos _).le.trans hle

/-- What is left of a number, at least, when it is rounded. -/
def leftover : ℚ := 1 - 2 ^ (-53 : ℤ)

theorem leftover_pos : 0 < leftover := by
  norm_num [leftover]

theorem leftover_lt_one : leftover < 1 := by
  norm_num [leftover]

theorem leftover_mul_le_nearest {q : ℚ} (h : IsNormal q) : leftover * q ≤ nearest q := by
  rcases h with rfl | hle
  · rw [mul_zero, nearest_zero]
  have hpos : 0 < q := (two_zpow_pos _).trans_le hle
  have hunit : 2 ^ (ulp q + 52) ≤ q := by
    rcases (le_max_right (Int.log 2 q - 52) (-1074)).lt_or_eq with hlt | heq
    · exact two_zpow_ulp_le hpos hlt
    · have hulp : ulp q = -1074 := heq.symm
      rw [hulp]
      exact hle
  have hround := le_toEven_add_half (q / 2 ^ ulp q)
  rw [div_le_iff₀ (two_zpow_pos _), add_mul] at hround
  rw [zpow_add₀ two_ne_zero] at hunit
  unfold leftover nearest
  have hsplit : (2 : ℚ) ^ (-53 : ℤ) * 2 ^ (52 : ℤ) = 1 / 2 := by norm_num
  nlinarith

/-- A value loses no more than a number below it. -/
theorem leftover_mul_le_rounded {q : ℚ} (h : IsNormal q) {v : WithTop ℚ}
    (hle : (q : WithTop ℚ) ≤ v) : ((leftover * q : ℚ) : WithTop ℚ) ≤ rounded v := by
  refine le_trans ?_ (rounded_mono (WithTop.coe_nonneg.mpr h.nonneg) hle)
  rw [rounded_coe]
  split_ifs
  · exact WithTop.coe_le_coe.mpr (leftover_mul_le_nearest h)
  · exact le_top

/-! ## Seconds -/

theorem second_cast_pos : (0 : ℚ) < Duration.second := by
  exact_mod_cast second_pos

theorem leftover_mul_le_nearest_fraction (f : ℕ) :
    leftover * (f / Duration.second) ≤ nearest (f / Duration.second) := by
  refine leftover_mul_le_nearest ?_
  rcases Nat.eq_zero_or_pos f with rfl | hpos
  · exact .inl (by rw [Nat.cast_zero, zero_div])
  · have hone : (1 : ℚ) ≤ f := by exact_mod_cast hpos
    refine isNormal_of_le ((le_div_iff₀ second_cast_pos).mpr (le_trans ?_ hone))
    norm_num [Duration.second]

/-- Of a time in seconds, two parts are lost at most. -/
theorem leftover_sq_mul_le_secondsValue (nanos : ℕ) :
    ((leftover ^ 2 * (nanos / Duration.second) : ℚ) : WithTop ℚ) ≤ secondsValue nanos := by
  rcases Nat.eq_zero_or_pos nanos with rfl | hpos
  · rw [Nat.cast_zero, zero_div, mul_zero]
    exact (reads_toSeconds 0).nonneg
  have hwhole := leftover_mul_le_rounded (isNormal_natCast (nanos / Duration.second)) le_rfl
  have hfraction := leftover_mul_le_nearest_fraction (nanos % Duration.second)
  have hsplit : ((nanos / Duration.second : ℕ) : ℚ) +
      (nanos % Duration.second : ℕ) / Duration.second = nanos / Duration.second := by
    have hdiv : ((Duration.second * (nanos / Duration.second) + nanos % Duration.second : ℕ) : ℚ) =
        nanos := congrArg Nat.cast (Nat.div_add_mod nanos Duration.second)
    push_cast at hdiv
    rw [← hdiv, add_div, mul_div_cancel_left₀ _ second_cast_pos.ne']
  have hsum : ((leftover * (nanos / Duration.second) : ℚ) : WithTop ℚ) ≤
      rounded (((nanos / Duration.second : ℕ) : ℚ) : WithTop ℚ) +
        (nearest ((nanos % Duration.second : ℕ) / Duration.second) : ℚ) := by
    rw [← hsplit, mul_add, WithTop.coe_add]
    exact add_le_add hwhole (WithTop.coe_le_coe.mpr hfraction)
  have hone : (1 : ℚ) ≤ nanos := by exact_mod_cast hpos
  have hnormal : IsNormal (leftover * (nanos / Duration.second)) := by
    refine isNormal_of_le ?_
    rw [← mul_div_assoc, le_div_iff₀ second_cast_pos]
    refine le_trans ?_ (le_mul_of_one_le_right leftover_pos.le hone)
    norm_num [Duration.second, leftover]
  rw [pow_two, mul_assoc]
  exact leftover_mul_le_rounded hnormal hsum

end Gateway.Binary64
