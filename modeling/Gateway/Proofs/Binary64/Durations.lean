import Gateway.Limit.Bucket
import Gateway.Proofs.Binary64.Accuracy
import Gateway.Proofs.Decimal.Dyadic

/-!
# Durations from floating point numbers

A number of seconds is a duration unless it is too large, and then it is the nearest
nanosecond. The whole seconds that a duration is rounded up to fall short of it by a few
parts in `2 ^ 53` at most.
-/

namespace Gateway.Binary64

variable {x : Float} {q : ℚ}

/-! ## The parts of a number -/

theorem Value.finite?_coe {u : Float.Model.UnpackedFloat} (h : Value u q) : finite? u = some q := by
  generalize hv : (q : WithTop ℚ) = v at h
  cases h with
  | zero => rw [WithTop.coe_eq_zero.mp hv, finite?]
  | finite hm h hle =>
      rw [WithTop.coe_inj.mp hv]
      rfl
  | infinity => exact absurd hv WithTop.coe_ne_top

theorem Value.finite?_top {u : Float.Model.UnpackedFloat} (h : Value u ⊤) : finite? u = none := by
  generalize hv : (⊤ : WithTop ℚ) = v at h
  cases h with
  | zero => exact absurd hv WithTop.top_ne_zero
  | finite hm h hle => exact absurd hv WithTop.top_ne_coe
  | infinity => rfl

/-- A finite number is the quotient that its bits name, and has no sign that counts. -/
theorem Reads.exists_dyadic (h : Reads x q) : ∃ d, Dyadic.ofFloat? x = some d ∧
    (d.ratio.1 : ℚ) / d.ratio.2 = q ∧ (d.negative && d.mantissa ≠ 0) = false := by
  have hvalue := Dyadic.map_value_ofFloat? x
  rw [Value.finite?_coe h, Option.map_eq_some_iff] at hvalue
  obtain ⟨d, hd, hq⟩ := hvalue
  have hnonneg : 0 ≤ q := WithTop.coe_nonneg.mp h.nonneg
  refine ⟨d, hd, ?_⟩
  rw [← (Dyadic.ratio_spec d).2]
  unfold Dyadic.value at hq
  have hsize : 0 ≤ (d.mantissa : ℚ) * 2 ^ d.exponent :=
    mul_nonneg (Nat.cast_nonneg _) (two_zpow_pos _).le
  cases hsign : d.negative with
  | false =>
      rw [hsign, if_neg Bool.false_ne_true] at hq
      exact ⟨hq, rfl⟩
  | true =>
      rw [hsign, if_pos rfl] at hq
      have hzero : (d.mantissa : ℚ) * 2 ^ d.exponent = 0 := by linarith
      have hmantissa : d.mantissa = 0 := by
        simpa [(two_zpow_pos d.exponent).ne'] using hzero
      exact ⟨by linarith, by simp [hmantissa]⟩

theorem Reads.ofFloat?_top (h : Reads x ⊤) : Dyadic.ofFloat? x = none := by
  have hvalue := Dyadic.map_value_ofFloat? x
  rwa [Value.finite?_top h, Option.map_eq_none_iff] at hvalue

/-! ## The nearest nanosecond -/

theorem roundHalfEven_eq (num : ℕ) {den : ℕ} (hden : 0 < den) :
    roundHalfEven num den = toEven (num / den) := by
  have hden' : (0 : ℚ) < den := by exact_mod_cast hden
  have hrest : (num : ℚ) / den - (num / den : ℕ) = (num % den : ℕ) / den := by
    have hdiv : ((den * (num / den) + num % den : ℕ) : ℚ) = num :=
      congrArg Nat.cast (Nat.div_add_mod num den)
    push_cast at hdiv
    rw [eq_div_iff hden'.ne', sub_mul, div_mul_cancel₀ _ hden'.ne', ← hdiv]
    ring
  have hlo : ((num % den : ℕ) : ℚ) / den < 1 / 2 ↔ 2 * (num % den) < den := by
    rw [div_lt_div_iff₀ hden' two_pos, ← Nat.cast_lt (α := ℚ)]
    push_cast
    rw [one_mul, mul_comm]
  have hhi : 1 / 2 < ((num % den : ℕ) : ℚ) / den ↔ den < 2 * (num % den) := by
    rw [div_lt_div_iff₀ two_pos hden', ← Nat.cast_lt (α := ℚ)]
    push_cast
    rw [one_mul, mul_comm]
  unfold roundHalfEven toEven
  rw [Nat.floor_div_eq_div, hrest]
  simp only [hlo, hhi]
  split_ifs <;> omega

theorem Reads.ofSeconds?_eq (h : Reads x q) : Duration.ofSeconds? x =
    if 2 ^ 64 ≤ q then none else some (toEven (q * Duration.second)) := by
  obtain ⟨d, hd, hratio, hsign⟩ := h.exists_dyadic
  have hden := (Dyadic.ratio_spec d).1
  have hden' : (0 : ℚ) < d.ratio.2 := by exact_mod_cast hden
  have hlong : Duration.secondsLimit * d.ratio.2 ≤ d.ratio.1 ↔ 2 ^ 64 ≤ q := by
    rw [← hratio, le_div_iff₀ hden', ← Nat.cast_le (α := ℚ), Nat.cast_mul]
    norm_num [Duration.secondsLimit]
  have hnanos : ((d.ratio.1 * Duration.second : ℕ) : ℚ) / d.ratio.2 = q * Duration.second := by
    rw [← hratio, Nat.cast_mul, div_mul_eq_mul_div]
  unfold Duration.ofSeconds?
  rw [hd]
  simp only [hsign, Bool.false_eq_true, if_false, hlong, roundHalfEven_eq _ hden, hnanos]

theorem Reads.ofSeconds?_top (h : Reads x ⊤) : Duration.ofSeconds? x = none := by
  unfold Duration.ofSeconds?
  rw [h.ofFloat?_top]

/-! ## Whole seconds -/

theorem le_ceil {d : Dyadic} : (d.ratio.1 : ℚ) / d.ratio.2 ≤ d.ceil := by
  have hden := (Dyadic.ratio_spec d).1
  have hden' : (0 : ℚ) < d.ratio.2 := by exact_mod_cast hden
  rw [div_le_iff₀ hden']
  unfold Dyadic.ceil
  have hlt := Nat.lt_mul_div_succ (d.ratio.1 + d.ratio.2 - 1) hden
  have hle : d.ratio.1 ≤ (d.ratio.1 + d.ratio.2 - 1) / d.ratio.2 * d.ratio.2 := by
    rw [Nat.mul_succ, mul_comm] at hlt
    omega
  exact_mod_cast hle

theorem rounded_one : rounded 1 = 1 := by
  simpa using rounded_natCast (n := 1) (by norm_num)

theorem one_le_rounded {v : WithTop ℚ} (h : 1 ≤ v) : 1 ≤ rounded v :=
  rounded_one.symm.trans_le (rounded_mono zero_le_one h)

/-- Whole seconds have no fraction that could be lost. -/
theorem secondsValue_mul_second (n : ℕ) :
    secondsValue (n * Duration.second) = rounded ((n : ℚ) : WithTop ℚ) := by
  unfold secondsValue
  rw [Nat.mul_div_cancel _ second_pos, Nat.mul_mod_left, Nat.cast_zero, zero_div, nearest_zero,
    WithTop.coe_zero, add_zero, (reads_ofNat n).rounded_eq]

theorem secondsValue_zero : secondsValue 0 = 0 := by
  have hzero := secondsValue_mul_second 0
  rwa [Nat.zero_mul, Nat.cast_zero, WithTop.coe_zero, Value.zero.rounded_eq] at hzero

theorem secondsValue_second : secondsValue Duration.second = 1 := by
  have hone := secondsValue_mul_second 1
  rwa [Nat.one_mul, Nat.cast_one, WithTop.coe_one, rounded_one] at hone

/-- Durations have a finite number of seconds. -/
theorem secondsValue_le_limit {nanos : ℕ} (h : nanos ≤ Duration.secondsLimit * Duration.second) :
    secondsValue nanos ≤ ((2 ^ 64 : ℚ) : WithTop ℚ) := by
  have hlimit : ((Duration.secondsLimit : ℕ) : ℚ) = 2 ^ 64 := by norm_num [Duration.secondsLimit]
  refine (secondsValue_mono h).trans_eq ?_
  rw [secondsValue_mul_second, hlimit, rounded_two_pow (by norm_num)]

theorem leftover_mul_le_ceilSeconds {nanos : ℕ}
    (h : nanos ≤ Duration.secondsLimit * Duration.second) :
    leftover ^ 3 * (nanos / Duration.second) ≤ (Amount.ceilSeconds nanos : ℚ) := by
  have hlimit := secondsValue_le_limit h
  have hlow := leftover_sq_mul_le_secondsValue nanos
  have hreads := reads_toSeconds nanos
  obtain ⟨q, hq⟩ := WithTop.ne_top_iff_exists.mp (hlimit.trans_lt (WithTop.coe_lt_top _)).ne
  rw [← hq] at hlimit hlow hreads
  obtain ⟨d, hd, hratio, -⟩ := hreads.exists_dyadic
  have hle : q ≤ 2 ^ 64 := WithTop.coe_le_coe.mp hlimit
  have hceil : q ≤ d.ceil := hratio ▸ le_ceil
  have hnonneg : 0 ≤ q := WithTop.coe_nonneg.mp hreads.nonneg
  have hresult : Amount.ceilSeconds nanos = min d.ceil (2 ^ 64 - 1) := by
    unfold Amount.ceilSeconds
    rw [hd]
    rfl
  have hcap : leftover * q ≤ ((2 ^ 64 - 1 : ℕ) : ℚ) :=
    (mul_le_mul_of_nonneg_left hle leftover_pos.le).trans (by norm_num [leftover])
  rw [hresult, Nat.cast_min]
  calc leftover ^ 3 * (nanos / Duration.second)
      = leftover * (leftover ^ 2 * (nanos / Duration.second)) := by ring
    _ ≤ leftover * q := mul_le_mul_of_nonneg_left (WithTop.coe_le_coe.mp hlow) leftover_pos.le
    _ ≤ min (d.ceil : ℚ) ((2 ^ 64 - 1 : ℕ) : ℚ) :=
        le_min ((mul_le_of_le_one_left hnonneg leftover_lt_one.le).trans hceil) hcap

end Gateway.Binary64
