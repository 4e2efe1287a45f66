import Gateway.Duration
import Gateway.Proofs.Binary64.Arithmetic

/-!
# Whole numbers and seconds

A whole number becomes the nearest floating point number. Nanoseconds become seconds in
two steps that round on their own, and still the result never gets smaller with time.
-/

namespace Gateway.Binary64

open Float.Model Float.Model.UnpackedFloat

/-! ## Whole numbers -/

theorem reads_ofModel_ofNat (n : ℕ) :
    Reads (.ofModel (.ofNat n)) (rounded ((n : ℚ) : WithTop ℚ)) := by
  have hrounded := rounded_normalize (Int.natCast_nonneg n) 0
  rw [zpow_zero, mul_one, Int.cast_natCast] at hrounded
  exact hrounded.value

/-- The first power of ten. -/
theorem reads_one : Reads Float.exactlyRepresentablePowersOfTen[0] ((1 : ℚ) : WithTop ℚ) := by
  have hunpack : Float.exactlyRepresentablePowersOfTen[0].toModel.unpack =
      .finite .positive (2 ^ 52) (-52) (by norm_num) := rfl
  have hone : (((2 ^ 52 : ℕ) : ℚ) * 2 ^ (-52 : ℤ)) = 1 := by norm_num
  unfold Reads
  rw [hunpack, ← hone]
  exact .finite _ (.of_normal le_rfl (by norm_num) (by norm_num)) (by norm_num)

/-- Numbers that are too large for the table of powers are rounded from their bits. -/
theorem reads_ofScientific {n : ℕ} (hn : 0 < n) :
    Reads (.ofModel (.ofScientific n 0)) (rounded ((n : ℚ) : WithTop ℚ)) := by
  have hshift : n <<< Format.binary64.mantissaBits * 10 ^ (0 : ℤ).toNat = n * 2 ^ 53 := by
    rw [Nat.shiftLeft_eq, Int.toNat_zero, pow_zero, mul_one]
    rfl
  have hvalue : ((n * 2 ^ 53 : ℕ) : ℚ) * 2 ^ (-53 : ℤ) = n := by
    push_cast
    rw [mul_assoc]
    norm_num
  have hpos : (0 : ℚ) < (n * 2 ^ 53 : ℕ) := by exact_mod_cast Nat.mul_pos hn (Nat.two_pow_pos 53)
  have hlarge : 2 ^ 52 ≤ n * 2 ^ 53 :=
    (Nat.pow_le_pow_right two_pos (by norm_num)).trans (Nat.le_mul_of_pos_left _ hn)
  have hulp : -53 ≤ ulp (((n * 2 ^ 53 : ℕ) : ℚ) * 2 ^ (-53 : ℤ)) :=
    le_ulp (mul_pos hpos (two_zpow_pos _)) (le_natCast_mul hlarge)
  have hrounded := rounded_roundWithAccuracy .positive (tells_exact (n * 2 ^ 53)) hpos hulp
    (fun h0 => absurd h0 (by omega))
  rw [hvalue, ← hshift] at hrounded
  have hbits : ((2 : ℤ) ^ Format.binary64.exponentBits) = 2048 := rfl
  have hunpack : (Float.Model.ofScientific n 0).unpack =
      (pack (UnpackedFloat.ofScientific Format.binary64 n 0)).unpack := rfl
  unfold Reads
  show Value (Float.Model.ofScientific n 0).unpack _
  rw [hunpack]
  unfold UnpackedFloat.ofScientific
  rw [dif_neg hn.ne', hbits, if_neg (by norm_num), if_neg (by omega), if_pos le_rfl]
  exact hrounded.value

/-- A whole number is rounded to the nearest floating point number. -/
theorem reads_ofNat (n : ℕ) : Reads (Float.ofNat n) (rounded ((n : ℚ) : WithTop ℚ)) := by
  by_cases hn : n < 2 ^ 53
  · have hfast : Float.ofNat n = n.toUInt64.toFloat * Float.exactlyRepresentablePowersOfTen[0] :=
      dif_pos ⟨hn, Nat.zero_le 22⟩
    have hword : n.toUInt64.toNat = n := by
      rw [Nat.toUInt64_eq, UInt64.toNat_ofNat']
      exact Nat.mod_eq_of_lt (hn.trans (by norm_num))
    have hfloat : n.toUInt64.toFloat = .ofModel (.ofNat n) := by
      conv_rhs => rw [← hword]
      rfl
    rw [hfast, hfloat]
    have hreads := reads_ofModel_ofNat n
    have hmul := hreads.mul reads_one (fun _ => WithTop.coe_ne_top)
      (fun _ => WithTop.coe_ne_zero.mpr one_ne_zero)
    rwa [WithTop.coe_one, mul_one, hreads.rounded_eq] at hmul
  · have hslow : Float.ofNat n = .ofModel (.ofScientific n 0) :=
      dif_neg fun h => hn h.1
    rw [hslow]
    exact reads_ofScientific (by omega)

/-- Powers of two are not passed by rounding. -/
theorem rounded_of_le {q : ℚ} {n : ℕ} (hn : n < 1024) (hq : 0 ≤ q) (hle : q ≤ 2 ^ n) :
    rounded (q : WithTop ℚ) = ((nearest q : ℚ) : WithTop ℚ) := by
  have hlt : nearest q < 2 ^ 1024 :=
    (nearest_le_two_pow hq hle).trans_lt (pow_lt_pow_right₀ one_lt_two hn)
  rw [rounded_coe, if_pos hlt]

theorem rounded_natCast {n : ℕ} (hn : n < 2 ^ 53) :
    rounded ((n : ℚ) : WithTop ℚ) = ((n : ℚ) : WithTop ℚ) := by
  have hnearest := nearest_eq hn (show -1074 ≤ (0 : ℤ) by norm_num)
  rw [zpow_zero, mul_one] at hnearest
  have hle : (n : ℚ) ≤ 2 ^ 53 := by exact_mod_cast hn.le
  rw [rounded_of_le (by norm_num) (Nat.cast_nonneg n) hle, hnearest]

theorem rounded_two_pow {n : ℕ} (hn : n < 1024) :
    rounded ((2 ^ n : ℚ) : WithTop ℚ) = ((2 ^ n : ℚ) : WithTop ℚ) := by
  rw [rounded_of_le hn (by positivity) le_rfl, nearest_two_pow]

/-- From `2 ^ 53` on, a number has no room for fractions. -/
theorem Value.rounded_add {u : UnpackedFloat} {v : WithTop ℚ} (h : Value u v)
    (hlarge : ((2 ^ 53 : ℚ) : WithTop ℚ) ≤ v) {r : ℚ} (hr : 0 ≤ r) (hlt : r < 1) :
    rounded (v + (r : WithTop ℚ)) = v := by
  cases h with
  | zero => exact absurd (WithTop.coe_le_coe.mp hlarge) (by norm_num)
  | infinity => rw [top_add, rounded_top]
  | @finite m e hm h hle =>
      have hle' : (2 : ℚ) ^ 53 ≤ m * 2 ^ e := WithTop.coe_le_coe.mp hlarge
      have hexponent : 1 ≤ e := by
        by_contra hnot
        have hbound : (m : ℚ) * 2 ^ e < 2 ^ (e + (53 : ℕ)) := natCast_mul_lt h.bits
        have hsmall : (2 : ℚ) ^ (e + (53 : ℕ)) ≤ 2 ^ ((53 : ℕ) : ℤ) :=
          zpow_le_zpow_right₀ one_le_two (by omega)
        rw [zpow_natCast] at hsmall
        linarith
      -- A fraction below one is less than half a unit.
      have hunit : (2 : ℚ) ≤ 2 ^ e := by
        simpa using zpow_le_zpow_right₀ (one_le_two (α := ℚ)) hexponent
      rw [← WithTop.coe_add, rounded_coe, h.nearest_add hr (by linarith), if_pos (h.lt_iff.mpr hle)]

/-! ## Seconds -/

/-- The seconds in a number of nanoseconds, as whole seconds and a fraction that are
rounded each. -/
def secondsValue (nanos : ℕ) : WithTop ℚ :=
  rounded (rounded (((nanos / Duration.second : ℕ) : ℚ) : WithTop ℚ) +
    (nearest ((nanos % Duration.second : ℕ) / Duration.second) : ℚ))

theorem second_pos : 0 < Duration.second := by
  decide

theorem nearest_fraction_lt {f : ℕ} (hf : f < Duration.second) :
    nearest (f / Duration.second) < 1 := by
  have hcast : (f : ℚ) + 1 ≤ Duration.second := by exact_mod_cast hf
  have hpos : (0 : ℚ) < Duration.second := by exact_mod_cast second_pos
  have hle : (f : ℚ) / Duration.second ≤ ((2 ^ 53 - 1 : ℕ) : ℚ) * 2 ^ (-53 : ℤ) := by
    rw [div_le_iff₀ hpos]
    norm_num [Duration.second] at hcast ⊢
    linarith
  calc nearest (f / Duration.second)
      ≤ nearest (((2 ^ 53 - 1 : ℕ) : ℚ) * 2 ^ (-53 : ℤ)) :=
        nearest_mono (div_nonneg (Nat.cast_nonneg f) hpos.le) hle
    _ = ((2 ^ 53 - 1 : ℕ) : ℚ) * 2 ^ (-53 : ℤ) := nearest_eq (by norm_num) (by norm_num)
    _ < 1 := by norm_num

theorem reads_second : Reads 1e9 ((Duration.second : ℚ) : WithTop ℚ) := by
  have hunpack : (1e9 : Float).toModel.unpack =
      .finite .positive (Duration.second * 2 ^ 23) (-23) (by norm_num [Duration.second]) := rfl
  have hvalue : (((Duration.second * 2 ^ 23 : ℕ) : ℚ) * 2 ^ (-23 : ℤ)) = Duration.second := by
    norm_num [Duration.second]
  unfold Reads
  rw [hunpack, ← hvalue]
  exact .finite _ (.of_normal (by norm_num [Duration.second]) (by norm_num [Duration.second])
    (by norm_num)) (by norm_num)

theorem reads_toSeconds (nanos : ℕ) : Reads (Duration.toSeconds nanos) (secondsValue nanos) := by
  have hf : nanos % Duration.second < Duration.second := Nat.mod_lt _ second_pos
  have hfraction := reads_ofNat (nanos % Duration.second)
  rw [rounded_natCast (hf.trans (by norm_num [Duration.second]))] at hfraction
  have hdiv := hfraction.div reads_second WithTop.coe_ne_top
    (WithTop.coe_pos.mpr (by exact_mod_cast second_pos)) WithTop.coe_ne_top
  rw [WithTop.untopD_coe, WithTop.untopD_coe, rounded_coe,
    if_pos ((nearest_fraction_lt hf).trans (one_lt_pow₀ one_lt_two (by norm_num)))] at hdiv
  exact (reads_ofNat _).add hdiv

theorem whole_le_secondsValue (nanos : ℕ) :
    rounded (((nanos / Duration.second : ℕ) : ℚ) : WithTop ℚ) ≤ secondsValue nanos := by
  have hreads := reads_ofNat (nanos / Duration.second)
  have hfraction := nearest_nonneg ((nanos % Duration.second : ℕ) / Duration.second)
  conv_lhs => rw [← hreads.rounded_eq]
  exact rounded_mono hreads.nonneg (le_add_of_nonneg_right (WithTop.coe_nonneg.mpr hfraction))

/-- The fraction does not carry a time beyond the next whole second. -/
theorem secondsValue_le_whole {nanos seconds : ℕ} (hlt : nanos / Duration.second < seconds) :
    secondsValue nanos ≤ rounded ((seconds : ℚ) : WithTop ℚ) := by
  have hfraction := nearest_fraction_lt (Nat.mod_lt nanos second_pos)
  have hnonneg := nearest_nonneg ((nanos % Duration.second : ℕ) / Duration.second)
  unfold secondsValue
  generalize nearest ((nanos % Duration.second : ℕ) / Duration.second) = r at hfraction hnonneg ⊢
  generalize nanos / Duration.second = s at hlt ⊢
  have hsucc : (s : ℚ) + 1 ≤ seconds := by exact_mod_cast hlt
  have hpos : (0 : ℚ) ≤ s := Nat.cast_nonneg s
  by_cases hsmall : s < 2 ^ 53
  · rw [rounded_natCast hsmall, ← WithTop.coe_add]
    exact rounded_mono (WithTop.coe_nonneg.mpr (by linarith)) (WithTop.coe_le_coe.mpr (by linarith))
  · have hlarge : ((2 ^ 53 : ℚ) : WithTop ℚ) ≤ rounded ((s : ℚ) : WithTop ℚ) := by
      have hcast : (2 : ℚ) ^ 53 ≤ s := by exact_mod_cast not_lt.mp hsmall
      rw [← rounded_two_pow (by norm_num)]
      exact rounded_mono (WithTop.coe_nonneg.mpr (by positivity)) (WithTop.coe_le_coe.mpr hcast)
    rw [Value.rounded_add (reads_ofNat s) hlarge hnonneg hfraction]
    exact rounded_mono (WithTop.coe_nonneg.mpr hpos) (WithTop.coe_le_coe.mpr (by linarith))

/-- Time in seconds does not go back. -/
theorem secondsValue_mono : Monotone secondsValue := by
  intro a b hab
  have hdiv : a / Duration.second ≤ b / Duration.second := Nat.div_le_div_right hab
  rcases hdiv.eq_or_lt with heq | hlt
  · have hmod : a % Duration.second ≤ b % Duration.second := by
      have hdiva := Nat.div_add_mod a Duration.second
      have hdivb := Nat.div_add_mod b Duration.second
      rw [heq] at hdiva
      omega
    have hfraction : nearest ((a % Duration.second : ℕ) / Duration.second) ≤
        nearest ((b % Duration.second : ℕ) / Duration.second) :=
      nearest_mono (by positivity)
        (div_le_div_of_nonneg_right (by exact_mod_cast hmod) (Nat.cast_nonneg _))
    unfold secondsValue
    rw [heq]
    have hnonneg := add_nonneg (reads_ofNat (b / Duration.second)).nonneg
      (WithTop.coe_nonneg.mpr (nearest_nonneg ((a % Duration.second : ℕ) / Duration.second)))
    exact rounded_mono hnonneg (by gcongr; exact WithTop.coe_le_coe.mpr hfraction)
  · exact (secondsValue_le_whole hlt).trans (whole_le_secondsValue b)

end Gateway.Binary64
