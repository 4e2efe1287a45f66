import Gateway.Proofs.Binary64.Value

/-!
# Floating point arithmetic

Sums, differences, products and quotients of floating point numbers that are not negative
have the exact value, rounded.
-/

namespace Gateway.Binary64

open Float.Model Float.Model.UnpackedFloat

/-- The number is not negative and has this value. -/
def Reads (x : Float) (v : WithTop ℚ) : Prop :=
  Value x.toModel.unpack v

theorem Reads.nonneg {x : Float} {v : WithTop ℚ} (h : Reads x v) : 0 ≤ v :=
  Value.nonneg h

theorem Reads.rounded_eq {x : Float} {v : WithTop ℚ} (h : Reads x v) : rounded v = v :=
  Value.rounded_eq h

theorem Reads.nearest_eq {x : Float} {q : ℚ} (h : Reads x q) : nearest q = q := by
  have hrounded := h.rounded_eq
  rw [rounded_coe] at hrounded
  split_ifs at hrounded
  · exact WithTop.coe_inj.mp hrounded
  · exact absurd hrounded.symm WithTop.coe_ne_top

theorem Reads.unique {x y : Float} {v : WithTop ℚ} (h : Reads x v) (h' : Reads y v) : x = y :=
  toModel_unpack_injective (Value.unique h h' rfl)

theorem le_iff_unpack {x y : Float} : x ≤ y ↔ x.toModel.unpack.le y.toModel.unpack = true := by
  show decide (x.toModel ≤ y.toModel) = true ↔ _
  rw [decide_eq_true_eq]
  rfl

theorem lt_iff_unpack {x y : Float} : x < y ↔ x.toModel.unpack.lt y.toModel.unpack = true := by
  show decide (x.toModel < y.toModel) = true ↔ _
  rw [decide_eq_true_eq]
  rfl

theorem Reads.le_iff {x y : Float} {v w : WithTop ℚ} (hx : Reads x v) (hy : Reads y w) :
    x ≤ y ↔ v ≤ w := by
  rw [le_iff_unpack]
  exact Value.le_iff hx hy

theorem Reads.lt_iff {x y : Float} {v w : WithTop ℚ} (hx : Reads x v) (hy : Reads y w) :
    x < y ↔ v < w := by
  rw [lt_iff_unpack]
  exact Value.lt_iff hx hy

/-! ## Operations on unpacked numbers -/

/-- Numbers with a common exponent. -/
theorem add_aligned (m m' : ℕ) (e e' : ℤ) :
    (((m * 2 ^ (e - min e e').toNat : ℕ) : ℚ) + (m' * 2 ^ (e' - min e e').toNat : ℕ)) * 2 ^ min e e' =
      m * 2 ^ e + m' * 2 ^ e' := by
  rw [add_mul, natCast_mul_two_zpow m (min_le_left e e'), natCast_mul_two_zpow m' (min_le_right e e')]

theorem value_add {u u' : UnpackedFloat} {v v' : WithTop ℚ} (h : Value u v) (h' : Value u' v') :
    Value (pack (UnpackedFloat.add Format.binary64 u u')).unpack (rounded (v + v')) := by
  cases h with
  | zero =>
      rw [zero_add, h'.rounded_eq]
      cases h' with
      | zero => exact Value.zero.unpack_pack
      | finite hm' h' hle' => exact (Value.finite hm' h' hle').unpack_pack
      | infinity => exact Value.infinity.unpack_pack
  | infinity =>
      rw [top_add]
      cases h' <;> exact Value.infinity.unpack_pack
  | @finite m e hm h hle =>
      cases h' with
      | zero =>
          rw [add_zero, (Value.finite hm h hle).rounded_eq]
          exact (Value.finite hm h hle).unpack_pack
      | infinity =>
          rw [add_top]
          exact Value.infinity.unpack_pack
      | @finite m' e' hm' h' hle' =>
          have hvalue := add_aligned m m' e e'
          generalize hA : m * 2 ^ (e - min e e').toNat = A at hvalue
          generalize hB : m' * 2 ^ (e' - min e e').toNat = B at hvalue
          have hrounded := rounded_normalize (m := (A : ℤ) + B) (by positivity) (min e e')
          rw [Int.cast_add, Int.cast_natCast, Int.cast_natCast, hvalue] at hrounded
          simp only [UnpackedFloat.add, decreaseExponent_eq _ (min_le_left e e'),
            decreaseExponent_eq _ (min_le_right e e'), Sign.apply, hA, hB]
          exact hrounded.value

theorem value_sub {m m' : ℕ} {e e' : ℤ} (hm : 0 < m) (hm' : 0 < m')
    (hle : (m' : ℚ) * 2 ^ e' ≤ m * 2 ^ e) :
    Value (pack (UnpackedFloat.sub Format.binary64 (.finite .positive m e hm)
      (.finite .positive m' e' hm'))).unpack (rounded ((m * 2 ^ e - m' * 2 ^ e' : ℚ) : WithTop ℚ)) := by
  have hleft := natCast_mul_two_zpow m (min_le_left e e')
  have hright := natCast_mul_two_zpow m' (min_le_right e e')
  rw [← hleft, ← hright, ← sub_mul]
  rw [← hleft, ← hright, mul_le_mul_iff_left₀ (two_zpow_pos _), Nat.cast_le] at hle
  generalize hA : m * 2 ^ (e - min e e').toNat = A at hle ⊢
  generalize hB : m' * 2 ^ (e' - min e e').toNat = B at hle ⊢
  have hrounded := rounded_normalize (m := (A : ℤ) - B) (by omega) (min e e')
  rw [Int.cast_sub, Int.cast_natCast, Int.cast_natCast] at hrounded
  simp only [UnpackedFloat.sub, decreaseExponent_eq _ (min_le_left e e'),
    decreaseExponent_eq _ (min_le_right e e'), Sign.apply, hA, hB]
  exact hrounded.value

theorem value_mul_finite {m m' : ℕ} {e e' : ℤ} (hm : 0 < m) (h : Canonical m e) (hm' : 0 < m')
    (h' : Canonical m' e') :
    Value (pack (UnpackedFloat.mul Format.binary64 (.finite .positive m e hm)
      (.finite .positive m' e' hm'))).unpack
      (rounded ((m * 2 ^ e * (m' * 2 ^ e') : ℚ) : WithTop ℚ)) := by
  have hvalue : (m : ℚ) * 2 ^ e * (m' * 2 ^ e') = ((m * m' : ℕ) : ℚ) * 2 ^ (e + e') := by
    rw [zpow_add₀ two_ne_zero]
    push_cast
    ring
  have hmul : 0 < m * m' := Nat.mul_pos hm hm'
  have hpos : (0 : ℚ) < (m * m' : ℕ) := by exact_mod_cast hmul
  have hulp : e + e' ≤ ulp (((m * m' : ℕ) : ℚ) * 2 ^ (e + e')) := by
    by_cases hlarge : 2 ^ 52 ≤ m * m'
    · exact le_ulp (mul_pos hpos (two_zpow_pos _)) (le_natCast_mul hlarge)
    · -- A product with a normal number has enough bits.
      have hleast : -1074 ≤ ulp (((m * m' : ℕ) : ℚ) * 2 ^ (e + e')) := le_max_right _ _
      have he := h.normal.resolve_left fun hle => hlarge (hle.trans (Nat.le_mul_of_pos_right m hm'))
      have he' := h'.normal.resolve_left fun hle => hlarge (hle.trans (Nat.le_mul_of_pos_left m' hm))
      omega
  rw [hvalue]
  exact (rounded_roundWithAccuracy .positive (tells_exact (m * m')) hpos hulp
    (fun h0 => absurd h0 hmul.ne')).value

theorem value_mul {u u' : UnpackedFloat} {v v' : WithTop ℚ} (h : Value u v) (h' : Value u' v')
    (hne : v = 0 → v' ≠ ⊤) (hne' : v = ⊤ → v' ≠ 0) :
    Value (pack (UnpackedFloat.mul Format.binary64 u u')).unpack (rounded (v * v')) := by
  cases h with
  | zero =>
      rw [zero_mul, Value.zero.rounded_eq]
      cases h' with
      | zero => exact Value.zero.unpack_pack
      | finite hm' h' hle' => exact Value.zero.unpack_pack
      | infinity => exact absurd rfl (hne rfl)
  | infinity =>
      cases h' with
      | zero => exact absurd rfl (hne' rfl)
      | finite hm' h' hle' =>
          rw [WithTop.top_mul (WithTop.coe_pos.mpr h'.value_pos).ne']
          exact Value.infinity.unpack_pack
      | infinity => exact Value.infinity.unpack_pack
  | finite hm h hle =>
      cases h' with
      | zero =>
          rw [mul_zero, Value.zero.rounded_eq]
          exact Value.zero.unpack_pack
      | finite hm' h' hle' =>
          rw [← WithTop.coe_mul]
          exact value_mul_finite hm h hm' h'
      | infinity =>
          rw [WithTop.mul_top (WithTop.coe_pos.mpr h.value_pos).ne']
          exact Value.infinity.unpack_pack

/-- The exponents of two numbers bound that of their quotient. -/
theorem le_quotient {m m' : ℕ} (e e' : ℤ) (hm : 0 < m) (hm' : 0 < m') :
    (2 : ℚ) ^ ((m.log2 : ℤ) + e - (m'.log2 + e') - 1) ≤ m * 2 ^ e / (m' * 2 ^ e') := by
  have hpos : (0 : ℚ) < m' * 2 ^ e' := mul_pos (by exact_mod_cast hm') (two_zpow_pos e')
  have hnum : (2 : ℚ) ^ (e + (m.log2 : ℕ)) ≤ m * 2 ^ e := le_natCast_mul (Nat.log2_self_le hm.ne')
  have hden : (m' : ℚ) * 2 ^ e' < 2 ^ (e' + ((m'.log2 + 1 : ℕ) : ℤ)) := natCast_mul_lt Nat.lt_log2_self
  rw [le_div_iff₀ hpos]
  calc (2 : ℚ) ^ ((m.log2 : ℤ) + e - (m'.log2 + e') - 1) * (m' * 2 ^ e')
      ≤ 2 ^ ((m.log2 : ℤ) + e - (m'.log2 + e') - 1) * 2 ^ (e' + ((m'.log2 + 1 : ℕ) : ℤ)) :=
        mul_le_mul_of_nonneg_left hden.le (two_zpow_pos _).le
    _ = 2 ^ (e + (m.log2 : ℕ)) := by
        rw [← zpow_add₀ two_ne_zero]
        congr 1
        push_cast
        ring
    _ ≤ m * 2 ^ e := hnum

/-- Division goes on until there are enough bits in the quotient. -/
theorem divCore_spec {m m' : ℕ} (e e' : ℤ) (hm : 0 < m) (hm' : 0 < m') :
    ∃ (x : ℚ) (n : ℕ) (target : ℤ) (acc : Accuracy),
      divCore Format.binary64 m e m' e' = (n, target, acc) ∧
      Tells (.ofMantissaAndAccuracy n acc) x ∧ x * 2 ^ target = m * 2 ^ e / (m' * 2 ^ e') ∧
      target ≤ ulp (m * 2 ^ e / (m' * 2 ^ e')) ∧ (n = 0 → target ≤ -1074) := by
  -- The exponents tell the quotient up to a factor of two; at most one bit too many is kept.
  obtain ⟨target, htarget⟩ : ∃ target, target = min (e - e') (Format.binary64.targetExponent
      (totalExponent m e - totalExponent m' e')) := ⟨_, rfl⟩
  have hbound : target ≤ max ((m.log2 : ℤ) + e - (m'.log2 + e') - 53) (-1074) := by
    have hbits : ((Format.binary64.mantissaBits : ℕ) : ℤ) = 53 := rfl
    have hleast : Format.binary64.minExponent = -1074 := rfl
    rw [htarget]
    unfold Format.targetExponent totalExponent
    rw [hbits, hleast]
    omega
  have hle : target ≤ e - e' := htarget ▸ min_le_left _ _
  have hquotient := le_quotient e e' hm hm'
  have hm'' : (0 : ℚ) < m' := by exact_mod_cast hm'
  have hpos : (0 : ℚ) < m * 2 ^ e / (m' * 2 ^ e') := (two_zpow_pos _).trans_le hquotient
  have hvalue : ((m * 2 ^ (e - e' - target).toNat : ℕ) : ℚ) / m' * 2 ^ target =
      m * 2 ^ e / (m' * 2 ^ e') := by
    rw [div_mul_eq_mul_div, natCast_mul_two_zpow m hle, zpow_sub₀ two_ne_zero]
    field_simp
  refine ⟨_, _, target, _, ?_, tells_quotient (m * 2 ^ (e - e' - target).toNat) hm', hvalue, ?_, ?_⟩
  · unfold divCore
    rw [← htarget]
    show (m <<< (e - e' - target).toNat / m', target, _) = _
    rw [Nat.shiftLeft_eq]
  · rcases le_max_iff.mp hbound with hlarge | hsmall
    · refine le_ulp hpos (le_trans (zpow_le_zpow_right₀ one_le_two ?_) hquotient)
      omega
    · exact hsmall.trans (le_max_right _ _)
  · intro hzero
    by_contra hnot
    have hlarge : target ≤ (m.log2 : ℤ) + e - (m'.log2 + e') - 53 := by omega
    have hlt : m * 2 ^ (e - e' - target).toNat < m' := (Nat.div_eq_zero_iff.mp hzero).resolve_left hm'.ne'
    have hone : ((m * 2 ^ (e - e' - target).toNat : ℕ) : ℚ) / m' < 1 := by
      rw [div_lt_one hm'']
      exact_mod_cast hlt
    have hsmall : (m : ℚ) * 2 ^ e / (m' * 2 ^ e') < 2 ^ target := by
      rw [← hvalue]
      exact mul_lt_of_lt_one_left (two_zpow_pos target) hone
    have hle' : (2 : ℚ) ^ target ≤ 2 ^ ((m.log2 : ℤ) + e - (m'.log2 + e') - 1) :=
      zpow_le_zpow_right₀ one_le_two (by omega)
    exact absurd (hsmall.trans_le (hle'.trans hquotient)) (lt_irrefl _)

theorem value_div_finite {m m' : ℕ} {e e' : ℤ} (hm : 0 < m) (hm' : 0 < m') :
    Value (pack (UnpackedFloat.div Format.binary64 (.finite .positive m e hm)
      (.finite .positive m' e' hm'))).unpack
      (rounded ((m * 2 ^ e / (m' * 2 ^ e') : ℚ) : WithTop ℚ)) := by
  obtain ⟨x, n, target, acc, hcore, htells, hvalue, hulp, hzero⟩ := divCore_spec e e' hm hm'
  have hx : 0 < x := by
    have hpos := (two_zpow_pos _).trans_le (le_quotient e e' hm hm')
    rw [← hvalue] at hpos
    exact pos_of_mul_pos_left hpos (two_zpow_pos target).le
  rw [← hvalue] at hulp ⊢
  unfold UnpackedFloat.div
  simp only [hcore]
  exact (rounded_roundWithAccuracy .positive htells hx hulp hzero).value

/-! ## Operations on floating point numbers -/

variable {x y : Float} {v w : WithTop ℚ}

theorem Reads.add (hx : Reads x v) (hy : Reads y w) : Reads (x + y) (rounded (v + w)) :=
  value_add hx hy

theorem Reads.mul (hx : Reads x v) (hy : Reads y w) (hne : v = 0 → w ≠ ⊤) (hne' : v = ⊤ → w ≠ 0) :
    Reads (x * y) (rounded (v * w)) :=
  value_mul hx hy hne hne'

/-- What is left of a number is not negative. -/
theorem Reads.sub (hx : Reads x v) (hy : Reads y w) (hpos : 0 < w) (htop : w ≠ ⊤) (hle : w ≤ v) :
    ∃ r, Reads (x - y) r := by
  have hsub : (x - y).toModel.unpack =
      (pack (UnpackedFloat.sub Format.binary64 x.toModel.unpack y.toModel.unpack)).unpack := rfl
  unfold Reads at hx hy ⊢
  rw [hsub]
  generalize x.toModel.unpack = u at hx ⊢
  generalize y.toModel.unpack = u' at hy ⊢
  cases hy with
  | zero => exact absurd hpos (lt_irrefl _)
  | infinity => exact absurd rfl htop
  | finite hm' h' hle' =>
      cases hx with
      | zero => exact absurd (hpos.trans_le hle) (lt_irrefl _)
      | infinity => exact ⟨⊤, Value.infinity.unpack_pack⟩
      | finite hm h hle'' => exact ⟨_, value_sub hm hm' (WithTop.coe_le_coe.mp hle)⟩

/-- What is left of a finite number is the exact value, rounded. -/
theorem Reads.sub_coe {p q : ℚ} (hx : Reads x p) (hy : Reads y q) (hle : q ≤ p) :
    Reads (x - y) (rounded ((p - q : ℚ) : WithTop ℚ)) := by
  have hsub : (x - y).toModel.unpack =
      (pack (UnpackedFloat.sub Format.binary64 x.toModel.unpack y.toModel.unpack)).unpack := rfl
  have hrounded := hx.rounded_eq
  unfold Reads at hx hy ⊢
  rw [hsub]
  generalize x.toModel.unpack = u at hx ⊢
  generalize y.toModel.unpack = u' at hy ⊢
  generalize hv : (p : WithTop ℚ) = v at hx
  generalize hw : (q : WithTop ℚ) = w at hy
  cases hy with
  | infinity => exact absurd hw WithTop.coe_ne_top
  | zero =>
      obtain rfl : q = 0 := WithTop.coe_eq_zero.mp hw
      rw [sub_zero, hrounded, hv]
      cases hx with
      | zero => exact Value.zero.unpack_pack
      | finite hm h hle' => exact (Value.finite hm h hle').unpack_pack
      | infinity => exact absurd hv WithTop.coe_ne_top
  | finite hm' h' hle' =>
      obtain rfl := WithTop.coe_inj.mp hw
      cases hx with
      | zero =>
          obtain rfl : p = 0 := WithTop.coe_eq_zero.mp hv
          exact absurd hle (not_le.mpr h'.value_pos)
      | infinity => exact absurd hv WithTop.coe_ne_top
      | finite hm h hle'' =>
          obtain rfl := WithTop.coe_inj.mp hv
          exact value_sub hm hm' hle

theorem Reads.div (hx : Reads x v) (hy : Reads y w) (hv : v ≠ ⊤) (hpos : 0 < w) (htop : w ≠ ⊤) :
    Reads (x / y) (rounded ((v.untopD 0 / w.untopD 0 : ℚ) : WithTop ℚ)) := by
  have hdiv : (x / y).toModel.unpack =
      (pack (UnpackedFloat.div Format.binary64 x.toModel.unpack y.toModel.unpack)).unpack := rfl
  unfold Reads at hx hy ⊢
  rw [hdiv]
  generalize x.toModel.unpack = u at hx ⊢
  generalize y.toModel.unpack = u' at hy ⊢
  cases hy with
  | zero => exact absurd hpos (lt_irrefl _)
  | infinity => exact absurd rfl htop
  | finite hm' h' hle' =>
      cases hx with
      | zero =>
          rw [WithTop.untopD_zero, zero_div]
          exact Value.zero.rounded_eq ▸ Value.zero.unpack_pack
      | infinity => exact absurd rfl hv
      | finite hm h hle => exact value_div_finite hm hm'

/-- A number that is not below zero has a value, unless it is the zero with a sign. -/
theorem Reads.of_nonneg (h : 0.0 ≤ x) :
    x.toModel.unpack = .zero .negative ∨ ∃ v, Reads x v := by
  rw [le_iff_unpack] at h
  have hzero : (0.0 : Float).toModel.unpack = .zero .positive := rfl
  rw [hzero] at h
  unfold Reads
  have hrep : Representable x.toModel.unpack := representable_unpack _
  generalize x.toModel.unpack = u at h hrep
  cases hrep with
  | notANumber => exact absurd h Bool.false_ne_true
  | zero s =>
      cases s with
      | negative => exact Or.inl rfl
      | positive => exact Or.inr ⟨0, .zero⟩
  | infinity s =>
      cases s with
      | negative => exact absurd h Bool.false_ne_true
      | positive => exact Or.inr ⟨⊤, .infinity⟩
  | finite s hm h' hle =>
      cases s with
      | negative => exact absurd h Bool.false_ne_true
      | positive => exact Or.inr ⟨_, .finite hm h' hle⟩

theorem le_of_lt_float (h : x < y) : x ≤ y := by
  rw [lt_iff_unpack] at h
  rw [le_iff_unpack, UnpackedFloat.le, beq_iff_eq.mp h]
  rfl

/-- A number above zero has a value. -/
theorem Reads.of_pos (hpos : 0.0 < x) : ∃ v, Reads x v ∧ 0 < v := by
  have hzero : Reads 0.0 0 := Value.zero
  rcases Reads.of_nonneg (le_of_lt_float hpos) with hnegative | ⟨v, hv⟩
  · rw [lt_iff_unpack, hnegative] at hpos
    exact absurd hpos Bool.false_ne_true
  · exact ⟨v, hv, (hzero.lt_iff hv).mp hpos⟩

/-! ## Undefined numbers -/

/-- The product of zero and infinity is undefined. -/
theorem mul_undefined (hx : Reads x 0) (hy : Reads y ⊤) : (x * y).toModel.unpack = .notANumber := by
  have hmul : (x * y).toModel.unpack =
      (pack (UnpackedFloat.mul Format.binary64 x.toModel.unpack y.toModel.unpack)).unpack := rfl
  have hzero : x.toModel.unpack = .zero .positive := Value.unique hx .zero rfl
  have htop : y.toModel.unpack = .infinity .positive := Value.unique hy .infinity rfl
  rw [hmul, hzero, htop]
  exact unpack_pack .notANumber

theorem add_undefined (hx : Reads x v) (hy : y.toModel.unpack = .notANumber) :
    (x + y).toModel.unpack = .notANumber := by
  have hadd : (x + y).toModel.unpack =
      (pack (UnpackedFloat.add Format.binary64 x.toModel.unpack y.toModel.unpack)).unpack := rfl
  unfold Reads at hx
  rw [hadd, hy]
  generalize x.toModel.unpack = u at hx
  cases hx <;> exact unpack_pack .notANumber

theorem not_le_of_undefined (hx : x.toModel.unpack = .notANumber) (y : Float) : ¬x ≤ y := by
  rw [le_iff_unpack, hx]
  exact Bool.false_ne_true

theorem not_ge_of_undefined (hx : x.toModel.unpack = .notANumber) (y : Float) : ¬y ≤ x := by
  rw [le_iff_unpack, hx]
  cases y.toModel.unpack <;> exact Bool.false_ne_true

end Gateway.Binary64
