import Gateway.Proofs.Binary64.Rounding

/-!
# Floating point numbers and their bits

The bits of a floating point number determine a sign, a mantissa and an exponent, and are
determined by them. A number that has been rounded is packed without loss unless its
exponent is too large, and then becomes infinite.
-/

namespace Gateway.Binary64

open Float.Model Float.Model.UnpackedFloat

/-- A number with the bits that a floating point number has. -/
inductive Representable : UnpackedFloat → Prop where
  | notANumber : Representable .notANumber
  | infinity (s : Sign) : Representable (.infinity s)
  | zero (s : Sign) : Representable (.zero s)
  | finite (s : Sign) {m : ℕ} {e : ℤ} (hm : 0 < m) (h : Canonical m e) (hle : e ≤ 971) :
      Representable (.finite s m e hm)

/-- What a number becomes when it is packed. -/
def limited : UnpackedFloat → UnpackedFloat
  | .finite s m e hm => if e ≤ 971 then .finite s m e hm else .infinity s
  | u => u

theorem finite_congr {s : Sign} {m m' : ℕ} {e e' : ℤ} (hm : 0 < m) (hm' : 0 < m') (h : m = m')
    (he : e = e') : UnpackedFloat.finite s m e hm = .finite s m' e' hm' := by
  subst h he
  rfl

/-- The leading bit of a normal number is not stored. -/
theorem toNat_leading_append (b : BitVec 52) : (1#1 ++ b).toNat = b.toNat + 2 ^ 52 := by
  rw [BitVec.toNat_append, BitVec.toNat_ofNat, ← Nat.shiftLeft_add_eq_or_of_lt b.isLt,
    Nat.shiftLeft_eq]
  omega

theorem toNat_one_append {m : ℕ} (hlo : 2 ^ 52 ≤ m) (hhi : m < 2 ^ 53) :
    (1#1 ++ BitVec.ofNat 52 m).toNat = m := by
  rw [toNat_leading_append, BitVec.toNat_ofNat]
  omega

theorem unpack_normal (s : Sign) {m biased : ℕ} (hlo : 2 ^ 52 ≤ m) (hhi : m < 2 ^ 53)
    (hpos : 0 < biased) (hlt : biased < 2047) :
    UnpackedFloat.unpack Format.binary64
      (packComponents Format.binary64 s (BitVec.ofNat 11 biased) (BitVec.ofNat 52 m)) =
      .finite s m ((biased : ℤ) - 1075) (by omega) := by
  have hones : BitVec.ofNat 11 biased ≠ -1#11 := by
    intro h
    have := congrArg BitVec.toNat h
    have hvalue : (-1#11).toNat = 2047 := by decide
    rw [BitVec.toNat_ofNat, Nat.mod_eq_of_lt (by omega), hvalue] at this
    omega
  have hzeros : BitVec.ofNat 11 biased ≠ 0#11 := by
    intro h
    have := congrArg BitVec.toNat h
    rw [BitVec.toNat_ofNat, Nat.mod_eq_of_lt (by omega)] at this
    exact absurd this hpos.ne'
  unfold UnpackedFloat.unpack
  simp only [unpackMantissa_packComponents, unpackExponent_packComponents,
    unpackSign_packComponents, Sign.ofBitVec_toBitVec]
  rw [if_neg hones, if_neg hzeros]
  refine finite_congr _ _ (toNat_one_append hlo hhi) ?_
  rw [BitVec.toNat_ofNat, Nat.mod_eq_of_lt (by omega)]
  rfl

theorem unpack_subnormal (s : Sign) {m : ℕ} (hpos : 0 < m) (hlt : m < 2 ^ 52) :
    UnpackedFloat.unpack Format.binary64
      (packComponents Format.binary64 s 0#11 (BitVec.ofNat 52 m)) =
      .finite s m (-1074) hpos := by
  have hmantissa : BitVec.ofNat 52 m ≠ 0#52 := by
    intro h
    have := congrArg BitVec.toNat h
    rw [BitVec.toNat_ofNat, Nat.mod_eq_of_lt hlt] at this
    exact absurd this hpos.ne'
  unfold UnpackedFloat.unpack
  simp only [unpackMantissa_packComponents, unpackExponent_packComponents,
    unpackSign_packComponents, Sign.ofBitVec_toBitVec]
  rw [if_neg (by decide), if_pos trivial, dif_neg hmantissa]
  refine finite_congr _ _ ?_ (by decide)
  rw [BitVec.toNat_ofNat, Nat.mod_eq_of_lt hlt]

theorem unpack_packedInfinity (s : Sign) :
    UnpackedFloat.unpack Format.binary64 (packedInfinity Format.binary64 s) = .infinity s := by
  cases s <;> rfl

theorem Canonical.log2_iff {m : ℕ} {e : ℤ} (h : Canonical m e) :
    m.log2 + 1 = Format.binary64.mantissaBits ↔ 2 ^ 52 ≤ m := by
  have hpos := h.pos.ne'
  have hlt := h.bits
  show m.log2 + 1 = 53 ↔ _
  constructor
  · intro hlog
    exact (Nat.le_log2 hpos).mp (by omega)
  · intro hle
    have hlo := (Nat.le_log2 hpos).mpr hle
    have hhi := (Nat.log2_lt hpos).mpr hlt
    omega

/-- The exponent as it is stored. -/
def biased (e : ℤ) : ℕ :=
  (e + 1075).toNat

theorem biased_eq (e : ℤ) :
    (e + (Format.binary64.exponentBias : ℕ) + ((52 : ℕ) : ℤ)).toNat = biased e := by
  have hbias : ((Format.binary64.exponentBias : ℕ) : ℤ) = 1023 := rfl
  rw [hbias]
  refine congrArg Int.toNat ?_
  show e + 1023 + 52 = _
  omega

theorem pack_normal (s : Sign) {m : ℕ} {e : ℤ} (hm : 0 < m) (h : Canonical m e)
    (hnormal : 2 ^ 52 ≤ m) (hle : e ≤ 971) :
    UnpackedFloat.pack Format.binary64 (.finite s m e hm) =
      packComponents Format.binary64 s (BitVec.ofNat 11 (biased e)) (BitVec.ofNat 52 m) := by
  unfold UnpackedFloat.pack
  simp only [biased_eq]
  rw [if_neg (by show ¬ 2 ^ 11 ≤ (e + 1075).toNat + 1; omega), if_pos (h.log2_iff.mpr hnormal)]

theorem pack_subnormal (s : Sign) {m : ℕ} {e : ℤ} (hm : 0 < m) (h : Canonical m e)
    (hlt : m < 2 ^ 52) :
    UnpackedFloat.pack Format.binary64 (.finite s m e hm) =
      packComponents Format.binary64 s 0#11 (BitVec.ofNat 52 m) := by
  have he := h.normal.resolve_left (by omega)
  unfold UnpackedFloat.pack
  simp only [biased_eq]
  rw [if_neg (by show ¬ 2 ^ 11 ≤ (e + 1075).toNat + 1; omega),
    if_neg fun hlog => by have := h.log2_iff.mp hlog; omega]

theorem pack_large (s : Sign) {m : ℕ} {e : ℤ} (hm : 0 < m) (hlt : 971 < e) :
    UnpackedFloat.pack Format.binary64 (.finite s m e hm) = packedInfinity Format.binary64 s := by
  unfold UnpackedFloat.pack
  simp only [biased_eq]
  rw [if_pos (by show 2 ^ 11 ≤ (e + 1075).toNat + 1; omega)]

/-- Packing loses nothing but numbers beyond all bounds. -/
theorem unpack_pack_finite (s : Sign) {m : ℕ} {e : ℤ} (hm : 0 < m) (h : Canonical m e) :
    UnpackedFloat.unpack Format.binary64 (UnpackedFloat.pack Format.binary64 (.finite s m e hm)) =
      limited (.finite s m e hm) := by
  have hleast := h.least
  unfold limited
  by_cases hle : e ≤ 971
  · simp only [if_pos hle]
    by_cases hnormal : 2 ^ 52 ≤ m
    · rw [pack_normal s hm h hnormal hle]
      unfold biased
      rw [unpack_normal s hnormal h.bits (by omega) (by omega)]
      exact finite_congr _ _ rfl (by omega)
    · rw [pack_subnormal s hm h (by omega), unpack_subnormal s hm (by omega)]
      exact finite_congr _ _ rfl (h.normal.resolve_left hnormal).symm
  · simp only [if_neg hle]
    rw [pack_large s hm (by omega), unpack_packedInfinity]

/-- What has been rounded, or is no finite number. -/
inductive Settled : UnpackedFloat → Prop where
  | notANumber : Settled .notANumber
  | infinity (s : Sign) : Settled (.infinity s)
  | zero (s : Sign) : Settled (.zero s)
  | finite (s : Sign) {m : ℕ} {e : ℤ} (hm : 0 < m) (h : Canonical m e) : Settled (.finite s m e hm)

theorem unpack_pack {u : UnpackedFloat} (hu : Settled u) : (pack u).unpack = limited u := by
  cases hu with
  | notANumber => exact unpack_packedNaN
  | infinity s => exact unpack_packedInfinity s
  | zero s => exact unpack_packedZero
  | finite s hm h => exact unpack_pack_finite s hm h

theorem le_toNat_one_append (b : BitVec 52) :
    2 ^ 52 ≤ (1#1 ++ b).toNat ∧ (1#1 ++ b).toNat < 2 ^ 53 := by
  constructor
  · rw [toNat_leading_append]
    exact Nat.le_add_left _ _
  · exact (1#1 ++ b).isLt

theorem Canonical.subnormal {m : ℕ} (hpos : 0 < m) (hlt : m < 2 ^ 52) : Canonical m (-1074) :=
  ⟨hpos, hlt.trans (by norm_num), le_rfl, Or.inr rfl⟩

theorem Canonical.of_normal {m : ℕ} {e : ℤ} (hlo : 2 ^ 52 ≤ m) (hhi : m < 2 ^ 53)
    (he : -1074 ≤ e) : Canonical m e :=
  ⟨(Nat.two_pow_pos 52).trans_le hlo, hhi, he, Or.inl hlo⟩

theorem unpackExponent_ne {b : BitVec 64}
    (hones : @unpackExponent Format.binary64 b ≠ -1#11)
    (hzeros : @unpackExponent Format.binary64 b ≠ 0#11) :
    0 < (@unpackExponent Format.binary64 b).toNat ∧
      (@unpackExponent Format.binary64 b).toNat < 2047 := by
  have hne : (@unpackExponent Format.binary64 b).toNat ≠ 0 := by
    intro h0
    exact hzeros (BitVec.eq_of_toNat_eq h0)
  have hne' : (@unpackExponent Format.binary64 b).toNat ≠ 2047 := by
    intro h0
    exact hones (BitVec.eq_of_toNat_eq h0)
  have hlt : (@unpackExponent Format.binary64 b).toNat < 2048 := BitVec.isLt _
  omega

theorem toNat_pos_of_ne {n : ℕ} {b : BitVec n} (h : b ≠ 0) : 0 < b.toNat :=
  Nat.pos_of_ne_zero fun h0 => h (BitVec.eq_of_toNat_eq (h0.trans (by simp)))

/-- Every pattern of bits is a floating point number of 53 bits. -/
theorem representable_unpack (b : BitVec 64) :
    Representable (UnpackedFloat.unpack Format.binary64 b) := by
  have hbias : ((Format.binary64.exponentBias : ℕ) : ℤ) + (52 : ℕ) = 1075 := rfl
  unfold UnpackedFloat.unpack
  simp only [hbias]
  split_ifs with hones hzero hzeros hzero
  · exact .infinity _
  · exact .notANumber
  · exact .zero _
  · have hexponent : ((@unpackExponent Format.binary64 b).toNat : ℤ) - 1075 + 1 = -1074 := by
      rw [hzeros]
      rfl
    have hpos := toNat_pos_of_ne hzero
    rw [finite_congr _ hpos rfl hexponent]
    exact .finite _ _ (.subnormal hpos (BitVec.isLt _)) (by norm_num)
  · obtain ⟨hpos, hlt⟩ := unpackExponent_ne hones hzeros
    obtain ⟨hlo, hhi⟩ := le_toNat_one_append (@unpackMantissa Format.binary64 b)
    exact .finite _ _ (.of_normal hlo hhi (by omega)) (by omega)

theorem toModel_unpack_injective {x y : Float} (h : x.toModel.unpack = y.toModel.unpack) : x = y := by
  have hbits : x.toModel.toBits.toBitVec = y.toModel.toBits.toBitVec :=
    (unpack_inj_of_valid x.toModel.valid y.toModel.valid).mp h
  exact Float.toBits_inj.mp (UInt64.toBitVec_inj.mp hbits)

end Gateway.Binary64
