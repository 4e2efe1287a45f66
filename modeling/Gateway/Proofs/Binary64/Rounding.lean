import Gateway.Proofs.Binary64.Nearest
import Mathlib

/-!
# How floating point numbers are rounded

Floating point arithmetic works on a mantissa with an exponent, and keeps of the bits
that it drops what rounding needs to know. What comes out is the nearest number of
53 bits.
-/

namespace Gateway.Binary64

open Float.Model Float.Model.UnpackedFloat

/-! ## Dropped bits -/

/-- Half a unit if the bit is set. -/
def half (b : Bool) : ℚ :=
  if b then 1 / 2 else 0

/-- What a mantissa with its residual bits knows of a number: the rest behind the round bit
is less than half a unit, and the sticky bit says whether there is one. -/
def Tells (em : ExtendedMantissa) (x : ℚ) : Prop :=
  ∃ rest, x = em.mantissa + half em.roundBit + rest ∧ 0 ≤ rest ∧ rest < 1 / 2 ∧
    (rest = 0 ↔ em.stickyBit = false)

theorem Tells.roundedMantissa {em : ExtendedMantissa} {x : ℚ} (h : Tells em x) :
    em.roundedMantissa = toEven x := by
  rcases em with ⟨m, roundBit, stickyBit⟩
  obtain ⟨rest, hx, hnonneg, hlt, hsticky⟩ := h
  cases roundBit with
  | false =>
      have hx' : x = m + 0 + rest := hx
      have hdown : toEven x = m := toEven_of_lt (by linarith) (by linarith)
      rw [hdown]
      cases stickyBit <;> rfl
  | true =>
      have hx' : x = m + 1 / 2 + rest := hx
      cases stickyBit with
      | false =>
          have hrest : rest = 0 := hsticky.mpr rfl
          exact (toEven_of_eq (by linarith)).symm
      | true =>
          have hrest : rest ≠ 0 := fun h0 => Bool.false_ne_true (hsticky.mp h0).symm
          have hpos := lt_of_le_of_ne hnonneg hrest.symm
          exact (toEven_of_gt (by linarith) (by linarith)).symm

theorem tells_exact (m : ℕ) : Tells (.ofMantissaAndAccuracy m .exact) m := by
  refine ⟨0, ?_, le_rfl, by norm_num, by simp [ExtendedMantissa.ofMantissaAndAccuracy]⟩
  show (m : ℚ) = m + 0 + 0
  ring

/-- A half or nothing, less than a half with what follows. -/
theorem half_nonneg (b : Bool) : 0 ≤ half b := by
  cases b <;> norm_num [half]

theorem half_le (b : Bool) : half b ≤ 1 / 2 := by
  cases b <;> norm_num [half]

theorem half_eq_zero {b : Bool} : half b = 0 ↔ b = false := by
  cases b <;> norm_num [half]

theorem Tells.shiftRightOne {em : ExtendedMantissa} {x : ℚ} (h : Tells em x) :
    Tells em.shiftRightOne (x / 2) := by
  obtain ⟨rest, hx, hnonneg, hlt, hsticky⟩ := h
  have hbits := half_nonneg em.roundBit
  have hbits' := half_le em.roundBit
  have hm : (em.mantissa : ℚ) = 2 * (em.mantissa / 2 : ℕ) + (em.mantissa % 2 : ℕ) := by
    exact_mod_cast (Nat.div_add_mod em.mantissa 2).symm
  have hlast : ((em.mantissa % 2 : ℕ) : ℚ) = 2 * half (em.mantissa % 2 != 0) := by
    rcases Nat.mod_two_eq_zero_or_one em.mantissa with hmod | hmod <;> rw [hmod] <;> norm_num [half]
  refine ⟨(half em.roundBit + rest) / 2, ?_, by linarith, by linarith, ?_⟩
  · show x / 2 = (em.mantissa / 2 : ℕ) + half (em.mantissa % 2 != 0) + (half em.roundBit + rest) / 2
    linarith
  · show (half em.roundBit + rest) / 2 = 0 ↔ (em.roundBit || em.stickyBit) = false
    rw [Bool.or_eq_false_iff, ← half_eq_zero, ← hsticky]
    constructor
    · intro h0
      exact ⟨by linarith, by linarith⟩
    · rintro ⟨h0, h0'⟩
      rw [h0, h0']
      norm_num

theorem Tells.shiftRight {em : ExtendedMantissa} {x : ℚ} (h : Tells em x) (n : ℕ) :
    Tells (em >>> n) (x / 2 ^ n) := by
  induction n with
  | zero =>
      rw [pow_zero, div_one]
      exact h
  | succ n ih =>
      rw [pow_succ, ← div_div]
      exact ih.shiftRightOne

theorem mantissa_shiftRight (em : ExtendedMantissa) (n : ℕ) :
    (em >>> n).mantissa = em.mantissa / 2 ^ n := by
  induction n with
  | zero => rw [pow_zero, Nat.div_one]; rfl
  | succ n ih =>
      rw [pow_succ, ← Nat.div_div_eq_div_mul, ← ih]
      rfl

theorem Tells.bounds {em : ExtendedMantissa} {x : ℚ} (h : Tells em x) :
    (em.mantissa : ℚ) ≤ x ∧ x < em.mantissa + 1 := by
  obtain ⟨rest, hx, hnonneg, hlt, -⟩ := h
  have hbits := half_nonneg em.roundBit
  have hbits' := half_le em.roundBit
  constructor <;> linarith

/-- The quotient of two numbers, with what the division leaves. -/
theorem tells_quotient (n : ℕ) {d : ℕ} (hd : 0 < d) :
    Tells (.ofMantissaAndAccuracy (n / d) (accuracyOfFraction (n % d) d)) ((n : ℚ) / d) := by
  have hd' : (0 : ℚ) < d := by exact_mod_cast hd
  have hn : (n : ℚ) / d = (n / d : ℕ) + ((n % d : ℕ) : ℚ) / d := by
    rw [add_div' _ _ _ hd'.ne', div_left_inj' hd'.ne', mul_comm]
    exact_mod_cast (Nat.div_add_mod n d).symm
  have hlt : n % d < d := Nat.mod_lt n hd
  generalize n / d = q at hn ⊢
  generalize n % d = r at hn hlt ⊢
  rw [hn]
  unfold accuracyOfFraction
  by_cases hr : r = 0
  · rw [if_pos hr, hr, Nat.cast_zero, zero_div, add_zero]
    exact tells_exact q
  have hr' : (0 : ℚ) < r / d := div_pos (by exact_mod_cast Nat.pos_of_ne_zero hr) hd'
  rw [if_neg hr]
  rcases hcompare : compare (2 * r) d with _ | _ | _
  · rw [Nat.compare_eq_lt] at hcompare
    refine ⟨r / d, ?_, hr'.le, ?_, ?_⟩
    · show (q : ℚ) + r / d = q + 0 + r / d
      ring
    · rw [div_lt_div_iff₀ hd' two_pos]
      exact_mod_cast (by omega : r * 2 < 1 * d)
    · simpa [ExtendedMantissa.ofMantissaAndAccuracy] using hr'.ne'
  · rw [Nat.compare_eq_eq] at hcompare
    refine ⟨0, ?_, le_rfl, by norm_num, by simp [ExtendedMantissa.ofMantissaAndAccuracy]⟩
    show (q : ℚ) + r / d = q + 1 / 2 + 0
    have hhalf : (r : ℚ) / d = 1 / 2 := by
      rw [div_eq_div_iff hd'.ne' two_ne_zero]
      exact_mod_cast (by omega : r * 2 = 1 * d)
    rw [hhalf, add_zero]
  · rw [Nat.compare_eq_gt] at hcompare
    have hhalf : (1 : ℚ) / 2 < r / d := by
      rw [div_lt_div_iff₀ two_pos hd']
      exact_mod_cast (by omega : 1 * d < r * 2)
    have hone : (r : ℚ) / d < 1 := by
      rw [div_lt_one hd']
      exact_mod_cast hlt
    refine ⟨r / d - 1 / 2, ?_, by linarith, by linarith, ?_⟩
    · show (q : ℚ) + r / d = q + 1 / 2 + (r / d - 1 / 2)
      ring
    · simpa [ExtendedMantissa.ofMantissaAndAccuracy] using (sub_pos.mpr hhalf).ne'

/-! ## Rounding to the target -/

/-- The exponent that rounding aims at is the unit of the number. -/
theorem targetExponent_eq {m : ℕ} {e : ℤ} {x : ℚ} (hlo : (m : ℚ) ≤ x) (hhi : x < m + 1)
    (hx : 0 < x) (hzero : m = 0 → e ≤ -1074) :
    Format.binary64.targetExponent (totalExponent m e) = ulp (x * 2 ^ e) := by
  have htarget : Format.binary64.targetExponent (totalExponent m e) =
      max ((m.log2 : ℤ) + e - 52) (-1074) := by
    unfold Format.targetExponent totalExponent
    have hbits : ((Format.binary64.mantissaBits : ℕ) : ℤ) = 53 := rfl
    have hleast : Format.binary64.minExponent = -1074 := rfl
    rw [hbits, hleast]
    omega
  have hunit := two_zpow_pos e
  have hlog : x < 2 ^ (m.log2 + 1) := by
    have hm : ((m + 1 : ℕ) : ℚ) ≤ ((2 ^ (m.log2 + 1) : ℕ) : ℚ) := by
      exact_mod_cast Nat.lt_log2_self
    push_cast at hm
    linarith
  rw [htarget]
  by_cases hm : m = 0
  · have he := hzero hm
    subst hm
    rw [Nat.cast_zero, zero_add] at hhi
    have hsmall : x * 2 ^ e < 2 ^ ((-1074 : ℤ) + 53) := by
      calc x * 2 ^ e < 1 * 2 ^ e := mul_lt_mul_of_pos_right hhi hunit
        _ = 2 ^ e := one_mul _
        _ ≤ 2 ^ ((-1074 : ℤ) + 53) := zpow_le_zpow_right₀ one_le_two (by omega)
    rw [ulp_eq le_rfl hsmall (mul_pos hx hunit) (Or.inl rfl), Nat.log2_zero]
    omega
  · have hle : (2 : ℚ) ^ m.log2 ≤ x := by
      have hm' : ((2 ^ m.log2 : ℕ) : ℚ) ≤ m := by exact_mod_cast Nat.log2_self_le hm
      push_cast at hm'
      linarith
    unfold ulp
    have hpos := mul_pos hx hunit
    have hfloor : Int.log 2 (x * 2 ^ e) = m.log2 + e := by
      refine le_antisymm ?_ ?_
      · rw [← Int.lt_add_one_iff, ← Int.lt_zpow_iff_log_lt one_lt_two hpos, Nat.cast_ofNat,
          add_right_comm, zpow_add₀ two_ne_zero]
        exact mul_lt_mul_of_pos_right (by exact_mod_cast hlog) hunit
      · rw [← Int.zpow_le_iff_le_log one_lt_two hpos, Nat.cast_ofNat, zpow_add₀ two_ne_zero]
        exact mul_le_mul_of_nonneg_right (by exact_mod_cast hle) hunit.le
    rw [hfloor]

/-- A rounded number with its sign. -/
inductive Rounded (s : Sign) : UnpackedFloat → ℚ → Prop where
  | zero : Rounded s (.zero s) 0
  | finite {m : ℕ} {e : ℤ} (hm : 0 < m) (h : Canonical m e) :
      Rounded s (.finite s m e hm) (m * 2 ^ e)

/-- The exponent does not change when a mantissa is in its place already. -/
theorem Canonical.targetExponent_eq {m : ℕ} {e : ℤ} (h : Canonical m e) :
    Format.binary64.targetExponent (totalExponent m e) = e := by
  have hpos : (0 : ℚ) < m := by exact_mod_cast h.pos
  rw [Binary64.targetExponent_eq le_rfl (by linarith) hpos (fun h0 => absurd h0 h.pos.ne'), h.ulp_eq]

/-- The second step of rounding: a mantissa of 54 bits is a power of two. -/
theorem rounded_shift {q : ℚ} (hq : 0 < q) :
    ∃ em e, shiftToTargetExponent Format.binary64 (toEven (q / 2 ^ ulp q)) (ulp q) .exact = (em, e) ∧
      ((em.mantissa = 0 ∧ nearest q = 0) ∨
        (Canonical em.mantissa e ∧ nearest q = em.mantissa * 2 ^ e)) := by
  have hleast : -1074 ≤ ulp q := le_max_right _ _
  have hmax := toEven_ulp_le q
  have hmin := le_toEven_ulp hq
  unfold nearest
  generalize toEven (q / 2 ^ ulp q) = M at hmax hmin ⊢
  generalize ulp q = e at hleast hmin ⊢
  refine ⟨_, _, rfl, ?_⟩
  rw [mantissa_shiftRight]
  show (M / _ = 0 ∧ _) ∨ (Canonical (M / _) _ ∧ _ = ((M / _ : ℕ) : ℚ) * _)
  rcases Nat.eq_zero_or_pos M with rfl | hpos
  · left
    rw [Nat.zero_div, Nat.cast_zero, zero_mul]
    exact ⟨rfl, rfl⟩
  right
  rcases hmax.lt_or_eq with hlt | rfl
  · have hcanonical : Canonical M e := by
      refine ⟨hpos, hlt, hleast, ?_⟩
      rcases hleast.lt_or_eq with hlt' | heq
      · exact Or.inl (hmin hlt')
      · exact Or.inr heq.symm
    rw [hcanonical.targetExponent_eq, sub_self, Int.toNat_zero, pow_zero, Nat.div_one,
      Nat.cast_zero, add_zero]
    exact ⟨hcanonical, rfl⟩
  · have htarget : Format.binary64.targetExponent (totalExponent (2 ^ 53) e) = e + 1 := by
      unfold Format.targetExponent totalExponent
      have hbits : ((Format.binary64.mantissaBits : ℕ) : ℤ) = 53 := rfl
      have hleast' : Format.binary64.minExponent = -1074 := rfl
      rw [hbits, hleast', Nat.log2_two_pow]
      omega
    have hshift : (e + 1 - e).toNat = 1 := by omega
    rw [htarget, hshift]
    refine ⟨⟨by norm_num, by norm_num, ?_, Or.inl (by norm_num)⟩, ?_⟩
    · rw [Nat.cast_one]
      omega
    · rw [Nat.cast_one, zpow_add₀ two_ne_zero]
      norm_num
      ring

/-- Rounding with what is known of the dropped bits gives the nearest number. -/
theorem rounded_roundWithAccuracy (s : Sign) {m : ℕ} {e : ℤ} {acc : Accuracy} {x : ℚ}
    (htells : Tells (.ofMantissaAndAccuracy m acc) x) (hx : 0 < x)
    (he : e ≤ ulp (x * 2 ^ e)) (hzero : m = 0 → e ≤ -1074) :
    Rounded s (roundWithAccuracy Format.binary64 s m e acc) (nearest (x * 2 ^ e)) := by
  have hmantissa : (ExtendedMantissa.ofMantissaAndAccuracy m acc).mantissa = m := by
    rcases acc with _ | _ | _ | _ <;> rfl
  have hbounds := htells.bounds
  rw [hmantissa] at hbounds
  have htarget := targetExponent_eq hbounds.1 hbounds.2 hx hzero
  have hq := mul_pos hx (two_zpow_pos e)
  have hshift : e + ((ulp (x * 2 ^ e) - e).toNat : ℤ) = ulp (x * 2 ^ e) := by omega
  have hrounded := (htells.shiftRight (ulp (x * 2 ^ e) - e).toNat).roundedMantissa
  have hscaled : x / 2 ^ (ulp (x * 2 ^ e) - e).toNat = x * 2 ^ e / 2 ^ ulp (x * 2 ^ e) := by
    generalize (ulp (x * 2 ^ e) - e).toNat = k at hshift ⊢
    rw [← hshift, zpow_add₀ two_ne_zero, zpow_natCast, mul_comm x,
      mul_div_mul_left _ _ (two_zpow_pos e).ne']
  -- Rounding may carry into one more bit, which a second shift takes back.
  obtain ⟨em, e', hfinal, hcases⟩ := rounded_shift hq
  have hfirst : shiftToTargetExponent Format.binary64 m e acc =
      (ExtendedMantissa.ofMantissaAndAccuracy m acc >>> (ulp (x * 2 ^ e) - e).toNat,
        ulp (x * 2 ^ e)) := by
    unfold shiftToTargetExponent
    rw [htarget]
    exact congrArg (Prod.mk _) hshift
  unfold roundWithAccuracy
  simp only [hfirst, hrounded, hscaled, hfinal]
  rcases hcases with ⟨hzero', hvalue⟩ | ⟨hcanonical, hvalue⟩
  · rw [dif_pos hzero', hvalue]
    exact .zero
  · rw [dif_neg hcanonical.pos.ne', hvalue]
    exact .finite _ hcanonical

/-- A number that is not rounded to zero is rounded to one of 53 bits. -/
theorem exists_canonical {q : ℚ} (hq : 0 < q) (hne : nearest q ≠ 0) :
    ∃ (m : ℕ) (e : ℤ), Canonical m e ∧ nearest q = m * 2 ^ e := by
  obtain ⟨em, e, -, ⟨-, hzero⟩ | hcanonical⟩ := rounded_shift hq
  · exact absurd hzero hne
  · exact ⟨em.mantissa, e, hcanonical⟩

/-! ## Rounding with zeros appended -/

theorem decreaseExponent_eq (m : ℕ) {e target : ℤ} (h : target ≤ e) :
    decreaseExponent m e target = (m * 2 ^ (e - target).toNat, target) := by
  have heq : e - ((e - target).toNat : ℤ) = target := by omega
  show (m <<< (e - target).toNat, e - ((e - target).toNat : ℤ)) = _
  rw [Nat.shiftLeft_eq, heq]

theorem decreaseExponent_of_le (m : ℕ) {e target : ℤ} (h : e ≤ target) :
    decreaseExponent m e target = (m, e) := by
  have hzero : (e - target).toNat = 0 := by omega
  show (m <<< (e - target).toNat, e - ((e - target).toNat : ℤ)) = _
  rw [hzero, Nat.shiftLeft_zero, Nat.cast_zero, sub_zero]

theorem rounded_round (s : Sign) {m : ℕ} (hm : 0 < m) (e : ℤ) :
    Rounded s (UnpackedFloat.round Format.binary64 s m e) (nearest (m * 2 ^ e)) := by
  have hpos : (0 : ℚ) < m := by exact_mod_cast hm
  have htarget : Format.binary64.targetExponent (totalExponent m e) = ulp (m * 2 ^ e) :=
    targetExponent_eq le_rfl (by linarith) hpos (fun h0 => absurd h0 hm.ne')
  unfold UnpackedFloat.round
  rw [htarget]
  rcases le_total e (ulp (m * 2 ^ e)) with hle | hle
  · simp only [decreaseExponent_of_le m hle]
    exact rounded_roundWithAccuracy s (tells_exact m) hpos hle (fun h0 => absurd h0 hm.ne')
  · simp only [decreaseExponent_eq m hle]
    have hvalue := natCast_mul_two_zpow m hle
    have hmul : 0 < m * 2 ^ (e - ulp (m * 2 ^ e)).toNat := Nat.mul_pos hm (Nat.two_pow_pos _)
    generalize m * 2 ^ (e - ulp (m * 2 ^ e)).toNat = m' at hvalue hmul ⊢
    have hrounded := rounded_roundWithAccuracy s (tells_exact m') (e := ulp (m * 2 ^ e))
      (by exact_mod_cast hmul) (by rw [hvalue]) (fun h0 => absurd h0 hmul.ne')
    rwa [hvalue] at hrounded

theorem rounded_normalize {m : ℤ} (hm : 0 ≤ m) (e : ℤ) :
    Rounded .positive (UnpackedFloat.normalize Format.binary64 m e .positive) (nearest (m * 2 ^ e)) := by
  obtain ⟨n, rfl⟩ := Int.eq_ofNat_of_zero_le hm
  rcases Nat.eq_zero_or_pos n with rfl | hpos
  · rw [Nat.cast_zero, Int.cast_zero, zero_mul, nearest_zero]
    exact .zero
  · have hcompare : compare (n : ℤ) 0 = .gt := by
      rw [compare_gt_iff_gt]
      exact_mod_cast hpos
    unfold UnpackedFloat.normalize
    rw [hcompare, Int.toNat_natCast, Int.cast_natCast]
    exact rounded_round .positive hpos e

end Gateway.Binary64
