import Gateway.Proofs.Binary64.Seconds

/-!
# Fractions of whole numbers

A product with a number below one does not reach the other factor, however it is rounded.
So a fraction of a whole number that has been rounded up is not above the whole number
itself. Cut off at the point, it is a whole number again.
-/

namespace Gateway.Binary64

open Float.Model Float.Model.UnpackedFloat

/-! ## Numbers cut off at the point -/

theorem roundToInt_eq (m : ℕ) (e : ℤ) : roundToInt .positive m e = (⌊(m : ℚ) * 2 ^ e⌋₊ : ℤ) := by
  unfold roundToInt
  rcases le_total 0 e with hle | hle
  · have hvalue := natCast_mul_two_zpow m hle
    rw [zpow_zero, mul_one] at hvalue
    rw [← hvalue, Nat.floor_natCast]
    simp only [decreaseExponent_eq m hle]
    rfl
  · have hvalue : (m : ℚ) * 2 ^ e = m / ((2 ^ (0 - e).toNat : ℕ) : ℚ) := by
      have heq : e = -((0 - e).toNat : ℤ) := by omega
      conv_lhs => rw [heq, zpow_neg, zpow_natCast, ← div_eq_mul_inv]
      rw [Nat.cast_pow, Nat.cast_ofNat]
    have hshift := mantissa_shiftRight (.ofMantissaAndAccuracy m .exact) (0 - e).toNat
    rw [hvalue, Nat.floor_div_eq_div]
    simp only [decreaseExponent_of_le m hle]
    exact congrArg Nat.cast hshift

theorem Value.toInt_eq {u : UnpackedFloat} {q : ℚ} (h : Value u q) (lo hi : ℤ) :
    u.toInt lo hi = (⌊q⌋₊ : ℤ) := by
  generalize hv : (q : WithTop ℚ) = v at h
  cases h with
  | zero =>
      rw [WithTop.coe_eq_zero.mp hv, Nat.floor_zero]
      rfl
  | finite hm h hle =>
      rw [WithTop.coe_inj.mp hv]
      exact roundToInt_eq _ _
  | infinity => exact absurd hv WithTop.coe_ne_top

theorem toNat_ofNatClamp (n : ℕ) : (UInt64.ofNatClamp n).toNat = min n (2 ^ 64 - 1) := by
  unfold UInt64.ofNatClamp
  split_ifs with hlt
  · have hle : n ≤ 2 ^ 64 - 1 := Nat.le_pred_of_lt hlt
    rw [min_eq_left hle]
    rfl
  · have hle : 2 ^ 64 - 1 ≤ n := (Nat.sub_le _ _).trans (not_lt.mp hlt)
    rw [min_eq_right hle]
    rfl

/-- What stands before the point, as far as 64 bits can hold it. -/
theorem Reads.toNat_toUInt64 {x : Float} {q : ℚ} (h : Reads x q) :
    x.toUInt64.toNat = min ⌊q⌋₊ (2 ^ 64 - 1) := by
  have hword : x.toUInt64 =
      UInt64.ofNatClamp (x.toModel.unpack.toInt 0 (UInt64.size - 1)).toNat := rfl
  rw [hword, Value.toInt_eq h, Int.toNat_natCast, toNat_ofNatClamp]

/-! ## Zeros and quarters -/

theorem reads_zero : Reads 0.0 ((0 : ℚ) : WithTop ℚ) :=
  .zero

/-- A product with the zero with a sign is that zero. -/
theorem Reads.mul_negative_zero {x : Float} {v : ℚ} (hx : Reads x v) : x * -0.0 = -0.0 := by
  refine toModel_unpack_injective ?_
  have hmul : (x * -0.0).toModel.unpack =
      (pack (UnpackedFloat.mul Format.binary64 x.toModel.unpack (.zero .negative))).unpack := rfl
  unfold Reads at hx
  rw [hmul]
  generalize x.toModel.unpack = u at hx ⊢
  generalize hv : (v : WithTop ℚ) = v' at hx
  cases hx with
  | zero => exact unpack_pack (.zero _)
  | finite hm h hle => exact unpack_pack (.zero _)
  | infinity => exact absurd hv WithTop.coe_ne_top

theorem reads_quarter : Reads 0.25 ((1 / 4 : ℚ) : WithTop ℚ) := by
  have hunpack : (0.25 : Float).toModel.unpack = .finite .positive (2 ^ 52) (-54) (by norm_num) := rfl
  have hvalue : ((2 ^ 52 : ℕ) : ℚ) * 2 ^ (-54 : ℤ) = 1 / 4 := by norm_num
  unfold Reads
  rw [hunpack, ← hvalue]
  exact .finite _ (.of_normal le_rfl (by norm_num) (by norm_num)) (by norm_num)

/-! ## Numbers below one -/

/-- The last number below one. -/
def belowOne : ℚ := ((2 ^ 53 - 1 : ℕ) : ℚ) * 2 ^ (-53 : ℤ)

theorem belowOne_pos : 0 < belowOne := by
  norm_num [belowOne]

theorem belowOne_lt_one : belowOne < 1 := by
  norm_num [belowOne]

theorem Canonical.le_belowOne {m : ℕ} {e : ℤ} (h : Canonical m e) (hlt : (m : ℚ) * 2 ^ e < 1) :
    (m : ℚ) * 2 ^ e ≤ belowOne := by
  have he : e ≤ -53 := by
    by_contra hnot
    have hm := h.normal.resolve_right (by omega)
    have hone : (2 : ℚ) ^ (0 : ℤ) ≤ 2 ^ (e + (52 : ℕ)) := zpow_le_zpow_right₀ one_le_two (by omega)
    rw [zpow_zero] at hone
    exact absurd (hone.trans (le_natCast_mul hm)) (not_le.mpr hlt)
  have hm : (m : ℚ) ≤ ((2 ^ 53 - 1 : ℕ) : ℚ) := by
    exact_mod_cast Nat.le_pred_of_lt h.bits
  exact mul_le_mul hm (zpow_le_zpow_right₀ one_le_two he) (two_zpow_pos e).le (Nat.cast_nonneg _)

/-- A number from zero up to one is at most the last one below, or the zero with a sign. -/
theorem reads_of_lt_one {x : Float} (hnonneg : 0.0 ≤ x) (hlt : x < 1.0) :
    x.toModel.unpack = .zero .negative ∨ ∃ q : ℚ, Reads x q ∧ q ≤ belowOne := by
  rcases Reads.of_nonneg hnonneg with hzero | ⟨v, hv⟩
  · exact Or.inl hzero
  right
  have hone : Reads 1.0 ((1 : ℚ) : WithTop ℚ) := reads_one
  rw [hv.lt_iff hone] at hlt
  unfold Reads at hv ⊢
  generalize x.toModel.unpack = u at hv ⊢
  cases hv with
  | zero => exact ⟨0, .zero, belowOne_pos.le⟩
  | infinity => exact absurd hlt not_top_lt
  | finite hm h hle =>
      exact ⟨_, .finite hm h hle, h.le_belowOne (WithTop.coe_lt_coe.mp hlt)⟩

/-! ## Products with numbers below one -/

/-- A fraction of a number is not too large if the number is not. -/
theorem Reads.mul_of_le_one {x y : Float} {p q : ℚ} {n : ℕ} (hx : Reads x p) (hy : Reads y q)
    (hn : n < 1024) (hle : p ≤ 2 ^ n) (hone : q ≤ 1) :
    Reads (x * y) ((nearest (p * q) : ℚ) : WithTop ℚ) ∧ nearest (p * q) ≤ 2 ^ n := by
  have hp : 0 ≤ p := WithTop.coe_nonneg.mp hx.nonneg
  have hq : 0 ≤ q := WithTop.coe_nonneg.mp hy.nonneg
  have hbound : p * q ≤ 2 ^ n := (mul_le_of_le_one_right hp hone).trans hle
  have hproduct := hx.mul hy (fun _ => WithTop.coe_ne_top) (absurd · WithTop.coe_ne_top)
  rw [← WithTop.coe_mul, rounded_of_le hn (mul_nonneg hp hq) hbound] at hproduct
  exact ⟨hproduct, nearest_le_two_pow (mul_nonneg hp hq) hbound⟩

/-- A product with the last number below one is a number below the other factor, with room
for its quarter. -/
theorem Canonical.exists_nearest_mul_belowOne {m : ℕ} {e : ℤ} (h : Canonical m e) (he : -1074 < e) :
    ∃ (k : ℕ) (j : ℤ), k < 2 ^ 53 ∧ e - 1 ≤ j ∧
      nearest (m * 2 ^ e * belowOne) = k * 2 ^ j ∧ (k : ℚ) * 2 ^ j < m * 2 ^ e := by
  have hbits := h.bits
  have hm := h.normal.resolve_right (by omega)
  rcases hm.eq_or_lt with rfl | hm
  · -- Below a power of two, numbers lie twice as close.
    have hsplit : (2 : ℚ) ^ e = 2 * 2 ^ (e - 1) := by
      rw [← zpow_one_add₀ two_ne_zero, add_sub_cancel]
    have hunit := two_zpow_pos (e - 1)
    refine ⟨2 ^ 53 - 1, e - 1, by norm_num, le_rfl, ?_, ?_⟩
    · rw [← Binary64.nearest_eq (m := 2 ^ 53 - 1) (e := e - 1) (by norm_num) (by omega)]
      congr 1
      rw [hsplit]
      norm_num [belowOne]
      ring
    · rw [hsplit]
      norm_num
      linarith
  · -- What is left of the last unit is less than half of it.
    have hcanonical : Canonical (m - 1) e := .of_normal (by omega) (by omega) h.least
    have hcast : ((m - 1 : ℕ) : ℚ) = m - 1 := by
      rw [Nat.cast_sub h.pos, Nat.cast_one]
    have hunit := two_zpow_pos e
    have hlo : (2 : ℚ) ^ 52 < m := by exact_mod_cast hm
    have hhi : (m : ℚ) < 2 ^ 53 := by exact_mod_cast hbits
    have hsplit : (m : ℚ) * 2 ^ e * belowOne =
        ((m - 1 : ℕ) : ℚ) * 2 ^ e + (1 - m / 2 ^ 53) * 2 ^ e := by
      rw [hcast]
      norm_num [belowOne]
      ring
    refine ⟨m - 1, e, hcanonical.bits, by omega, ?_, ?_⟩
    · rw [hsplit, hcanonical.nearest_add]
      · refine mul_nonneg (sub_nonneg.mpr ?_) hunit.le
        rw [div_le_one (by positivity)]
        exact hhi.le
      · have hhalf : 2 * (1 - m / 2 ^ 53) < (1 : ℚ) := by linarith
        nlinarith
    · rw [hcast]
      linarith

theorem one_le_nearest {c : ℕ} (hc : 0 < c) : 1 ≤ nearest c := by
  have hone : (1 : ℚ) ≤ c := by exact_mod_cast hc
  exact nearest_one.symm.trans_le (nearest_mono zero_le_one hone)

/-- The largest fraction of a whole number has room for its quarter, and is not above the
whole number, even if that has been rounded up. -/
theorem exists_nearest_natCast_mul_belowOne {c : ℕ} (hc : 0 < c) :
    ∃ (k : ℕ) (j : ℤ), k < 2 ^ 53 ∧ -1072 ≤ j ∧
      nearest (nearest c * belowOne) = k * 2 ^ j ∧ (k : ℚ) * 2 ^ j ≤ c := by
  have hone := one_le_nearest hc
  obtain ⟨m, e, hcanonical, hvalue⟩ :=
    exists_canonical (Nat.cast_pos.mpr hc) (zero_lt_one.trans_le hone).ne'
  rw [hvalue] at hone
  have he : -53 < e := by
    by_contra hnot
    have hlt : (m : ℚ) * 2 ^ e < 2 ^ (e + (53 : ℕ)) := natCast_mul_lt hcanonical.bits
    have hsmall : (2 : ℚ) ^ (e + (53 : ℕ)) ≤ 1 := zpow_le_one_of_nonpos₀ one_le_two (by omega)
    linarith
  obtain ⟨k, j, hk, hj, hproduct, hlt⟩ := hcanonical.exists_nearest_mul_belowOne (by omega)
  refine ⟨k, j, hk, by omega, hvalue ▸ hproduct, ?_⟩
  -- Otherwise the whole number would have been rounded to this number at most.
  by_contra hnot
  have hle := nearest_mono (Nat.cast_nonneg c) (not_le.mp hnot).le
  rw [hvalue, nearest_eq hk (by omega)] at hle
  exact absurd hle (not_le.mpr hlt)

theorem nearest_quarter {k : ℕ} {j : ℤ} (hk : k < 2 ^ 53) (hj : -1072 ≤ j) :
    nearest (k * 2 ^ j * (1 / 4)) = k * 2 ^ j * (1 / 4) := by
  have hsplit : (k : ℚ) * 2 ^ j * (1 / 4) = k * 2 ^ (j - 2) := by
    rw [zpow_sub₀ two_ne_zero]
    norm_num
    ring
  rw [hsplit, nearest_eq hk (by omega)]

/-- A quarter of a fraction of a whole number is at most a quarter of the number, though
each step may round up. -/
theorem nearest_quarter_le {c : ℕ} {q : ℚ} (hnonneg : 0 ≤ q) (hle : q ≤ belowOne) :
    nearest (nearest (nearest c * q) * (1 / 4)) ≤ c * (1 / 4) := by
  rcases Nat.eq_zero_or_pos c with rfl | hc
  · rw [Nat.cast_zero, nearest_zero, zero_mul, nearest_zero, zero_mul, nearest_zero]
  obtain ⟨k, j, hk, hj, hproduct, hlec⟩ := exists_nearest_natCast_mul_belowOne hc
  have hfraction : nearest (nearest c * q) ≤ k * 2 ^ j := by
    rw [← hproduct]
    refine nearest_mono (mul_nonneg (nearest_nonneg _) hnonneg) ?_
    exact mul_le_mul_of_nonneg_left hle (nearest_nonneg _)
  calc nearest (nearest (nearest c * q) * (1 / 4))
      ≤ nearest (k * 2 ^ j * (1 / 4)) :=
        nearest_mono (mul_nonneg (nearest_nonneg _) (by norm_num))
          (mul_le_mul_of_nonneg_right hfraction (by norm_num))
    _ = k * 2 ^ j * (1 / 4) := nearest_quarter hk hj
    _ ≤ c * (1 / 4) := mul_le_mul_of_nonneg_right hlec (by norm_num)

end Gateway.Binary64
