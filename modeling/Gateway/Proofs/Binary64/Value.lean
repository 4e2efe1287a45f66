import Gateway.Proofs.Binary64.Packing

/-!
# The values of floating point numbers

The value of a floating point number that is not negative is a rational number or
infinite. Comparisons are those of the values, and each operation gives the value that is
nearest to the exact one.
-/

namespace Gateway.Binary64

open Float.Model Float.Model.UnpackedFloat

/-- A number that is not negative has this value. -/
inductive Value : UnpackedFloat → WithTop ℚ → Prop where
  | zero : Value (.zero .positive) 0
  | finite {m : ℕ} {e : ℤ} (hm : 0 < m) (h : Canonical m e) (hle : e ≤ 971) :
      Value (.finite .positive m e hm) ((m * 2 ^ e : ℚ) : WithTop ℚ)
  | infinity : Value (.infinity .positive) ⊤

/-- What a value becomes when it has to be a floating point number. -/
def rounded : WithTop ℚ → WithTop ℚ
  | ⊤ => ⊤
  | (q : ℚ) => if nearest q < 2 ^ 1024 then ((nearest q : ℚ) : WithTop ℚ) else ⊤

theorem rounded_coe (q : ℚ) :
    rounded (q : WithTop ℚ) = if nearest q < 2 ^ 1024 then ((nearest q : ℚ) : WithTop ℚ) else ⊤ :=
  rfl

@[simp] theorem rounded_top : rounded ⊤ = ⊤ := rfl

theorem Value.nonneg {u : UnpackedFloat} {v : WithTop ℚ} (h : Value u v) : 0 ≤ v := by
  cases h with
  | zero => exact le_rfl
  | finite hm h hle => exact WithTop.coe_nonneg.mpr h.value_pos.le
  | infinity => exact le_top

/-- The largest exponent is that of numbers below two to the power of 1024. -/
theorem Canonical.lt_iff {m : ℕ} {e : ℤ} (h : Canonical m e) :
    (m : ℚ) * 2 ^ e < 2 ^ 1024 ↔ e ≤ 971 := by
  constructor
  · intro hlt
    by_contra hnot
    have hm := h.normal.resolve_right (by omega)
    have hle : (2 : ℚ) ^ (1024 : ℤ) ≤ 2 ^ (e + (52 : ℕ)) := zpow_le_zpow_right₀ one_le_two (by omega)
    exact absurd (hle.trans (le_natCast_mul hm)) (not_le.mpr (by exact_mod_cast hlt))
  · intro hle
    have hle' : (2 : ℚ) ^ (e + (53 : ℕ)) ≤ 2 ^ (1024 : ℤ) := zpow_le_zpow_right₀ one_le_two (by omega)
    exact_mod_cast (natCast_mul_lt h.bits).trans_le hle'

theorem Value.rounded_eq {u : UnpackedFloat} {v : WithTop ℚ} (h : Value u v) : rounded v = v := by
  cases h with
  | zero =>
      show rounded ((0 : ℚ) : WithTop ℚ) = _
      rw [rounded_coe, nearest_zero, if_pos (by positivity)]
      rfl
  | finite hm h hle => rw [rounded_coe, h.nearest_eq, if_pos (h.lt_iff.mpr hle)]
  | infinity => rfl

theorem rounded_mono {a b : WithTop ℚ} (ha : 0 ≤ a) (hab : a ≤ b) : rounded a ≤ rounded b := by
  cases b with
  | top => exact le_top
  | coe q =>
      cases a with
      | top => exact absurd hab (WithTop.not_top_le_coe q)
      | coe p =>
          have hnearest := nearest_mono (WithTop.coe_nonneg.mp ha) (WithTop.coe_le_coe.mp hab)
          rw [rounded_coe, rounded_coe]
          by_cases hq : nearest q < 2 ^ 1024
          · rw [if_pos hq, if_pos (hnearest.trans_lt hq)]
            exact WithTop.coe_le_coe.mpr hnearest
          · rw [if_neg hq]
            exact le_top

/-- A rounded number has the value that it was rounded to, or is infinite. -/
theorem Rounded.value {u : UnpackedFloat} {q : ℚ} (h : Rounded .positive u (nearest q)) :
    Value (pack u).unpack (rounded q) := by
  rw [rounded_coe]
  generalize nearest q = r at h
  cases h with
  | zero =>
      rw [unpack_pack (.zero _), if_pos (by positivity)]
      exact .zero
  | @finite m e hm h =>
      rw [unpack_pack (.finite _ hm h)]
      unfold limited
      by_cases hle : e ≤ 971
      · rw [if_pos (h.lt_iff.mpr hle)]
        simp only [if_pos hle]
        exact .finite hm h hle
      · rw [if_neg (fun hlt => hle (h.lt_iff.mp hlt))]
        simp only [if_neg hle]
        exact .infinity

theorem Value.unpack_pack {u : UnpackedFloat} {v : WithTop ℚ} (h : Value u v) :
    Value (pack u).unpack v := by
  cases h with
  | zero =>
      rw [Binary64.unpack_pack (.zero _)]
      exact .zero
  | finite hm h hle =>
      rw [Binary64.unpack_pack (.finite _ hm h), limited, if_pos hle]
      exact .finite hm h hle
  | infinity =>
      rw [Binary64.unpack_pack (.infinity _)]
      exact .infinity

/-! ## Comparisons -/

theorem Canonical.lt_of_lt {m m' : ℕ} {e e' : ℤ} (h : Canonical m e) (h' : Canonical m' e')
    (hlt : e < e') : (m : ℚ) * 2 ^ e < m' * 2 ^ e' := by
  have hleast := h.least
  have hm' := h'.normal.resolve_right (by omega)
  calc (m : ℚ) * 2 ^ e < 2 ^ (e + (53 : ℕ)) := natCast_mul_lt h.bits
    _ ≤ 2 ^ (e' + (52 : ℕ)) := zpow_le_zpow_right₀ one_le_two (by omega)
    _ ≤ m' * 2 ^ e' := le_natCast_mul hm'

/-- Exponents are compared first, then mantissas. -/
theorem Canonical.compare_isLE {m m' : ℕ} {e e' : ℤ} (h : Canonical m e) (h' : Canonical m' e') :
    ((compare e e').then (compare m m')).isLE = true ↔ (m : ℚ) * 2 ^ e ≤ m' * 2 ^ e' := by
  rcases lt_trichotomy e e' with hlt | rfl | hgt
  · rw [compare_lt_iff_lt.mpr hlt]
    exact iff_of_true rfl (h.lt_of_lt h' hlt).le
  · rw [compare_eq_iff_eq.mpr rfl, mul_le_mul_iff_left₀ (two_zpow_pos e), Nat.cast_le]
    exact Nat.isLE_compare
  · rw [compare_gt_iff_gt.mpr hgt]
    exact iff_of_false Bool.false_ne_true (not_le.mpr (h'.lt_of_lt h hgt))

theorem Value.le_iff {u u' : UnpackedFloat} {v v' : WithTop ℚ} (h : Value u v) (h' : Value u' v') :
    u.le u' = true ↔ v ≤ v' := by
  cases h with
  | zero =>
      refine iff_of_true ?_ h'.nonneg
      cases h' <;> rfl
  | infinity =>
      cases h' with
      | zero => exact iff_of_false Bool.false_ne_true (by simp)
      | finite hm h hle => exact iff_of_false Bool.false_ne_true (WithTop.not_top_le_coe _)
      | infinity => exact iff_of_true rfl le_rfl
  | finite hm h hle =>
      cases h' with
      | zero =>
          refine iff_of_false Bool.false_ne_true ?_
          rw [not_le]
          exact WithTop.coe_pos.mpr h.value_pos
      | finite hm' h' hle' =>
          rw [WithTop.coe_le_coe]
          exact h.compare_isLE h'
      | infinity => exact iff_of_true rfl le_top

theorem Canonical.compare_eq_lt {m m' : ℕ} {e e' : ℤ} (h : Canonical m e) (h' : Canonical m' e') :
    (compare e e').then (compare m m') = .lt ↔ (m : ℚ) * 2 ^ e < m' * 2 ^ e' := by
  rcases lt_trichotomy e e' with hlt | rfl | hgt
  · rw [compare_lt_iff_lt.mpr hlt]
    exact iff_of_true rfl (h.lt_of_lt h' hlt)
  · rw [compare_eq_iff_eq.mpr rfl, mul_lt_mul_iff_left₀ (two_zpow_pos e), Nat.cast_lt]
    exact compare_lt_iff_lt
  · rw [compare_gt_iff_gt.mpr hgt]
    exact iff_of_false Ordering.noConfusion (not_lt.mpr (h'.lt_of_lt h hgt).le)

theorem Value.lt_iff {u u' : UnpackedFloat} {v v' : WithTop ℚ} (h : Value u v) (h' : Value u' v') :
    u.lt u' = true ↔ v < v' := by
  cases h with
  | zero =>
      cases h' with
      | zero => exact iff_of_false Bool.false_ne_true (lt_irrefl _)
      | finite hm' h' hle' => exact iff_of_true rfl (WithTop.coe_pos.mpr h'.value_pos)
      | infinity => exact iff_of_true rfl WithTop.top_pos
  | infinity =>
      refine iff_of_false ?_ not_top_lt
      cases h' <;> exact Bool.false_ne_true
  | finite hm h hle =>
      cases h' with
      | zero =>
          refine iff_of_false Bool.false_ne_true ?_
          exact not_lt.mpr (WithTop.coe_nonneg.mpr h.value_pos.le)
      | finite hm' h' hle' =>
          rw [WithTop.coe_lt_coe, ← h.compare_eq_lt h']
          exact beq_iff_eq.trans Option.some_inj
      | infinity => exact iff_of_true rfl (WithTop.coe_lt_top _)

/-- Numbers of the same value are the same. -/
theorem Value.unique {u u' : UnpackedFloat} {v v' : WithTop ℚ} (h : Value u v) (h' : Value u' v')
    (heq : v = v') : u = u' := by
  cases h with
  | zero =>
      cases h' with
      | zero => rfl
      | finite hm' h' hle' => exact absurd heq (WithTop.coe_pos.mpr h'.value_pos).ne
      | infinity => exact absurd heq WithTop.zero_ne_top
  | infinity =>
      cases h' with
      | zero => exact absurd heq WithTop.top_ne_zero
      | finite hm' h' hle' => exact absurd heq WithTop.top_ne_coe
      | infinity => rfl
  | @finite m e hm h hle =>
      cases h' with
      | zero => exact absurd heq (WithTop.coe_pos.mpr h.value_pos).ne'
      | infinity => exact absurd heq WithTop.coe_ne_top
      | @finite m' e' hm' h' hle' =>
          rw [WithTop.coe_eq_coe] at heq
          have hexponent : e = e' := by
            rw [← h.ulp_eq, ← h'.ulp_eq, heq]
          subst hexponent
          rw [mul_left_inj' (two_zpow_pos e).ne', Nat.cast_inj] at heq
          exact finite_congr _ _ heq rfl

end Gateway.Binary64
