import Gateway.Failover
import Gateway.Proofs.Binary64.Fractions

/-!
# Jitter

The jitter of a rest is drawn in floating point: the rest times a number from zero up to
one times a quarter, rounded at each step and cut off at the point. All the same it is
never more than a quarter of the rest. A rest of less than about four fifths of the
largest number of milliseconds has room for every jitter, and a longer one has none for
the longest.
-/

namespace Gateway.FailoverPolicy

open Binary64 Float.Model Float.Model.UnpackedFloat

/-- A number that may be drawn. -/
def IsDraw (x : Float) : Prop :=
  0.0 ≤ x ∧ x < 1.0

instance (x : Float) : Decidable (IsDraw x) := by
  unfold IsDraw
  infer_instance

/-- The jitter of a rest before it is cut off. -/
def jitterValue (q : ℚ) (rest : ℕ) : ℚ :=
  nearest (nearest (nearest rest * q) * (1 / 4))

variable {x : Float} {q : ℚ} {rest : ℕ}

theorem jitterValue_mono {q' : ℚ} {rest' : ℕ} (hnonneg : 0 ≤ q) (hq : q ≤ q') (hrest : rest ≤ rest') :
    jitterValue q rest ≤ jitterValue q' rest' := by
  have hcast : (rest : ℚ) ≤ rest' := by exact_mod_cast hrest
  have hwhole : nearest rest ≤ nearest rest' := nearest_mono (Nat.cast_nonneg rest) hcast
  have hproduct : nearest (nearest rest * q) ≤ nearest (nearest rest' * q') :=
    nearest_mono (mul_nonneg (nearest_nonneg _) hnonneg)
      (mul_le_mul hwhole hq hnonneg (nearest_nonneg _))
  exact nearest_mono (mul_nonneg (nearest_nonneg _) (by norm_num))
    (mul_le_mul_of_nonneg_right hproduct (by norm_num))

/-! ## What is drawn -/

theorem reads_rest (hrest : rest ≤ maxMillis) :
    Reads (Float.ofNat rest) ((nearest rest : ℚ) : WithTop ℚ) ∧ nearest rest ≤ 2 ^ 64 := by
  have hle : rest ≤ 2 ^ 64 := hrest.trans (Nat.sub_le _ _)
  have hcast : (rest : ℚ) ≤ 2 ^ 64 := by exact_mod_cast hle
  have hreads := reads_ofNat rest
  rw [rounded_of_le (by norm_num) (Nat.cast_nonneg rest) hcast] at hreads
  exact ⟨hreads, nearest_le_two_pow (Nat.cast_nonneg rest) hcast⟩

theorem reads_jitter (hx : Reads x q) (hle : q ≤ belowOne) (hrest : rest ≤ maxMillis) :
    Reads (Float.ofNat rest * x * 0.25) ((jitterValue q rest : ℚ) : WithTop ℚ) := by
  obtain ⟨hwhole, hbound⟩ := reads_rest hrest
  obtain ⟨hfraction, hbound⟩ :=
    hwhole.mul_of_le_one hx (by norm_num) hbound (hle.trans belowOne_lt_one.le)
  exact (hfraction.mul_of_le_one reads_quarter (by norm_num) hbound (by norm_num)).1

theorem jitter_eq_floor (hx : Reads x q) (hle : q ≤ belowOne) (hrest : rest ≤ maxMillis) :
    jitter x rest = ⌊jitterValue q rest⌋₊ := by
  have hquarter := nearest_quarter_le (c := rest) (WithTop.coe_nonneg.mp hx.nonneg) hle
  have hfloor : ⌊jitterValue q rest⌋₊ ≤ 2 ^ 64 - 1 := by
    refine le_trans ?_ hrest
    rw [← Nat.floor_natCast (R := ℚ) rest]
    refine Nat.floor_mono (hquarter.trans ?_)
    exact mul_le_of_le_one_right (Nat.cast_nonneg rest) (by norm_num)
  unfold jitter
  rw [(reads_jitter hx hle hrest).toNat_toUInt64, min_eq_left hfloor]

/-- There is no jitter where the zero with a sign is drawn. -/
theorem jitter_negative_zero (hrest : rest ≤ maxMillis) : jitter (-0.0) rest = 0 := by
  unfold jitter
  rw [(reads_rest hrest).1.mul_negative_zero]
  rfl

theorem jitter_zero (hrest : rest ≤ maxMillis) : jitter 0.0 rest = 0 := by
  rw [jitter_eq_floor reads_zero belowOne_pos.le hrest]
  unfold jitterValue
  rw [mul_zero, nearest_zero, zero_mul, nearest_zero, Nat.floor_zero]

/-! ## The longest jitter -/

/-- The last number that may be drawn. -/
def longestDraw : Float :=
  0.9999999999999999

theorem isDraw_longestDraw : IsDraw longestDraw := by
  decide +kernel

theorem reads_longestDraw : Reads longestDraw ((belowOne : ℚ) : WithTop ℚ) := by
  have hunpack : longestDraw.toModel.unpack = .finite .positive (2 ^ 53 - 1) (-53) (by norm_num) := rfl
  unfold Reads
  rw [hunpack]
  exact .finite _ (.of_normal (by norm_num) (by norm_num) (by norm_num)) (by norm_num)

theorem jitter_longestDraw (hrest : rest ≤ maxMillis) :
    jitter longestDraw rest = ⌊jitterValue belowOne rest⌋₊ :=
  jitter_eq_floor reads_longestDraw le_rfl hrest

/-- No other number makes a longer jitter. -/
theorem jitter_le_longest (hx : IsDraw x) (hrest : rest ≤ maxMillis) :
    jitter x rest ≤ jitter longestDraw rest := by
  rcases reads_of_lt_one hx.1 hx.2 with hzero | ⟨q, hq, hle⟩
  · obtain rfl : x = -0.0 := toModel_unpack_injective hzero
    rw [jitter_negative_zero hrest]
    exact Nat.zero_le _
  · rw [jitter_eq_floor hq hle hrest, jitter_longestDraw hrest]
    exact Nat.floor_mono (jitterValue_mono (WithTop.coe_nonneg.mp hq.nonneg) hle le_rfl)

/-- A jitter is not more than a quarter of the rest. -/
theorem jitter_le_quarter (hx : IsDraw x) (hrest : rest ≤ maxMillis) : jitter x rest ≤ rest / 4 := by
  have hquarter : jitterValue belowOne rest ≤ (rest : ℚ) / ((4 : ℕ) : ℚ) := by
    rw [Nat.cast_ofNat, ← mul_one_div]
    exact nearest_quarter_le belowOne_pos.le le_rfl
  calc jitter x rest ≤ jitter longestDraw rest := jitter_le_longest hx hrest
    _ = ⌊jitterValue belowOne rest⌋₊ := jitter_longestDraw hrest
    _ ≤ ⌊(rest : ℚ) / ((4 : ℕ) : ℚ)⌋₊ := Nat.floor_mono hquarter
    _ = rest / 4 := Nat.floor_div_eq_div rest 4

/-! ## Rests without room for their jitter -/

/-- The least rest that leads beyond 64 bits with its longest jitter. -/
def tooLong : ℕ :=
  2 ^ 64 - 7205759403792793 * 2 ^ 9

/-- The limit is no number of 53 bits, and is rounded up. -/
theorem nearest_tooLong : nearest tooLong = (7205759403792794 : ℕ) * 2 ^ (11 : ℤ) := by
  have hulp : ulp tooLong = 11 := by
    refine ulp_eq (by norm_num) ?_ ?_ (Or.inr ?_)
    · norm_num [tooLong]
    · norm_num [tooLong]
    · norm_num [tooLong]
  unfold nearest
  rw [hulp, toEven_of_gt (n := 7205759403792793)]
  · norm_num [tooLong]
  · norm_num [tooLong]

/-- The longest jitter of the limit is all that is left of 64 bits. -/
theorem jitterValue_tooLong : jitterValue belowOne tooLong = ((2 ^ 64 - tooLong : ℕ) : ℚ) := by
  have hcanonical : Canonical 7205759403792793 11 :=
    .of_normal (by norm_num) (by norm_num) (by norm_num)
  have hfraction : nearest (nearest tooLong * belowOne) = (7205759403792793 : ℕ) * 2 ^ (11 : ℤ) := by
    have hsplit : ((7205759403792794 : ℕ) : ℚ) * 2 ^ (11 : ℤ) * belowOne =
        (7205759403792793 : ℕ) * 2 ^ (11 : ℤ) + (1 - 7205759403792794 / 2 ^ 53) * 2 ^ 11 := by
      norm_num [belowOne]
    rw [nearest_tooLong, hsplit, hcanonical.nearest_add (by norm_num) (by norm_num)]
  unfold jitterValue
  rw [hfraction, nearest_quarter (by norm_num) (by norm_num)]
  norm_num [tooLong]

/-- There is room for the longest jitter below the limit, and nowhere else. -/
theorem add_longest_le_iff (hrest : rest ≤ maxMillis) :
    rest + jitter longestDraw rest ≤ maxMillis ↔ rest < tooLong := by
  have hmillis : maxMillis = 2 ^ 64 - 1 := rfl
  have hlimit : tooLong ≤ 2 ^ 64 := by decide
  have hroom : ⌊jitterValue belowOne tooLong⌋₊ = 2 ^ 64 - tooLong := by
    rw [jitterValue_tooLong, Nat.floor_natCast]
  rw [jitter_longestDraw hrest]
  rcases lt_or_ge rest tooLong with hlt | hge
  · have hfloor := Nat.floor_mono (jitterValue_mono belowOne_pos.le le_rfl hlt.le)
    omega
  · have hfloor := Nat.floor_mono (jitterValue_mono belowOne_pos.le le_rfl hge)
    omega

end Gateway.FailoverPolicy
