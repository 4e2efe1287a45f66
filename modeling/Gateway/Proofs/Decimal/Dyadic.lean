import Gateway.Decimal.Binary64
import Gateway.Proofs.Binary64.Packing

/-!
# The exact values of floating point numbers

The bits of a finite floating point number name a sign, a mantissa and an exponent, and so a
rational number. Whether this is an integer, and which one, is read off these three.
-/

namespace Gateway

namespace Binary64

open Float.Model Float.Model.UnpackedFloat

def signed (s : Sign) (q : ℚ) : ℚ :=
  match s with
  | .positive => q
  | .negative => -q

theorem signed_zero (s : Sign) : signed s 0 = 0 := by
  cases s
  · exact neg_zero
  · rfl

/-- The value of a number, if it is finite. -/
def finite? : UnpackedFloat → Option ℚ
  | .zero _ => some 0
  | .finite s m e _ => some (signed s (m * 2 ^ e))
  | .infinity _ => none
  | .notANumber => none

/-! ## Bits -/

theorem toNat_unpackMantissa (b : BitVec 64) :
    (@unpackMantissa Format.binary64 b).toNat = b.toNat % 2 ^ 52 := by
  unfold unpackMantissa
  rw [BitVec.toNat_cast, BitVec.extractLsb_toNat]
  rfl

theorem toNat_unpackExponent (b : BitVec 64) :
    (@unpackExponent Format.binary64 b).toNat = b.toNat / 2 ^ 52 % 2 ^ 11 := by
  unfold unpackExponent
  rw [BitVec.toNat_cast, BitVec.extractLsb_toNat]
  show b.toNat >>> 52 % 2 ^ 11 = _
  rw [Nat.shiftRight_eq_div_pow]

theorem toNat_unpackSign (b : BitVec 64) :
    (@unpackSign Format.binary64 b).toNat = b.toNat / 2 ^ 63 := by
  unfold unpackSign
  rw [BitVec.toNat_cast, BitVec.extractLsb_toNat]
  show b.toNat >>> 63 % 2 ^ 1 = _
  rw [Nat.shiftRight_eq_div_pow, Nat.mod_eq_of_lt]
  have := b.isLt
  omega

/-- The sign is the first bit. -/
theorem signed_ofBitVec (b : BitVec 64) (q : ℚ) :
    signed (Sign.ofBitVec (@unpackSign Format.binary64 b)) q =
      if b.toNat / 2 ^ 63 = 1 then -q else q := by
  have hsign := toNat_unpackSign b
  have hlt := (@unpackSign Format.binary64 b).isLt
  generalize @unpackSign Format.binary64 b = s at hsign hlt
  unfold Sign.ofBitVec
  by_cases hzero : s = 0#1
  · have h0 : b.toNat / 2 ^ 63 = 0 := by
      rw [← hsign, hzero]
      rfl
    rw [if_pos hzero, if_neg (by omega)]
    rfl
  · have hpos := toNat_pos_of_ne hzero
    have h1 : b.toNat / 2 ^ 63 = 1 := by
      rw [← hsign]
      exact Nat.le_antisymm (Nat.le_of_lt_succ hlt) hpos
    rw [if_neg hzero, if_pos h1]
    rfl

end Binary64

namespace Dyadic

open Binary64 Float.Model Float.Model.UnpackedFloat

/-- The number that sign, mantissa and exponent name. -/
def value (d : Dyadic) : ℚ :=
  if d.negative then -(d.mantissa * 2 ^ d.exponent) else d.mantissa * 2 ^ d.exponent

theorem value_signed (b : BitVec 64) (m : ℕ) (e : ℤ) :
    value ⟨b.toNat / 2 ^ 63 = 1, m, e⟩ =
      signed (Sign.ofBitVec (@unpackSign Format.binary64 b)) (m * 2 ^ e) := by
  rw [signed_ofBitVec]
  simp [value]

/-- What is read off the bits of a number is its value. -/
theorem map_value_ofFloat? (x : Float) : (ofFloat? x).map value = finite? x.toModel.unpack := by
  set b : BitVec 64 := x.toModel.toBits.toBitVec with hb
  have hmantissa := toNat_unpackMantissa b
  have hexponent := toNat_unpackExponent b
  have hbias : ((Format.binary64.exponentBias : ℕ) : ℤ) + (52 : ℕ) = 1075 := rfl
  have hones : @unpackExponent Format.binary64 b = -1#11 ↔ b.toNat / 2 ^ 52 % 2 ^ 11 = 2047 := by
    rw [← hexponent, ← BitVec.toNat_inj]
    rfl
  have hzeros : @unpackExponent Format.binary64 b = 0#11 ↔ b.toNat / 2 ^ 52 % 2 ^ 11 = 0 := by
    rw [← hexponent, ← BitVec.toNat_inj]
    rfl
  have hread : ofFloat? x =
      if b.toNat / 2 ^ 52 % 2 ^ 11 = 2047 then none
      else if b.toNat / 2 ^ 52 % 2 ^ 11 = 0 then
        some ⟨b.toNat / 2 ^ 63 = 1, b.toNat % 2 ^ 52, -1074⟩
      else some ⟨b.toNat / 2 ^ 63 = 1, b.toNat % 2 ^ 52 + 2 ^ 52,
        (b.toNat / 2 ^ 52 % 2 ^ 11 : ℕ) - 1075⟩ := rfl
  rw [hread]
  show _ = finite? (UnpackedFloat.unpack Format.binary64 b)
  unfold UnpackedFloat.unpack
  simp only [hbias, hones, hzeros, hexponent]
  by_cases hspecial : b.toNat / 2 ^ 52 % 2 ^ 11 = 2047
  · rw [if_pos hspecial, if_pos hspecial]
    split_ifs <;> rfl
  · rw [if_neg hspecial, if_neg hspecial]
    by_cases hsmall : b.toNat / 2 ^ 52 % 2 ^ 11 = 0
    · rw [if_pos hsmall, if_pos hsmall, Option.map_some, value_signed, ← hmantissa]
      split_ifs with hzero
      · rw [hzero, BitVec.toNat_ofNat, Nat.zero_mod, Nat.cast_zero, zero_mul, signed_zero]
        rfl
      · rw [hsmall]
        rfl
    · rw [if_neg hsmall, if_neg hsmall, Option.map_some, value_signed, ← hmantissa]
      rw [← toNat_leading_append]
      rfl

/-! ## Integers -/

theorem ratio_spec (d : Dyadic) :
    0 < d.ratio.2 ∧ (d.mantissa : ℚ) * 2 ^ d.exponent = d.ratio.1 / d.ratio.2 := by
  unfold ratio
  by_cases he : 0 ≤ d.exponent
  · obtain ⟨n, hn⟩ := Int.eq_ofNat_of_zero_le he
    rw [if_pos he, hn]
    refine ⟨Nat.one_pos, ?_⟩
    show _ = ((d.mantissa * 2 ^ n : ℕ) : ℚ) / (1 : ℕ)
    rw [Nat.cast_mul, Nat.cast_pow, Nat.cast_one, div_one]
    rfl
  · obtain ⟨n, hn⟩ := Int.eq_ofNat_of_zero_le (show 0 ≤ -d.exponent by omega)
    rw [if_neg he, hn]
    refine ⟨Nat.two_pow_pos n, ?_⟩
    show _ = (d.mantissa : ℚ) / ((2 ^ n : ℕ) : ℚ)
    rw [show d.exponent = -(n : ℤ) by omega, zpow_neg, zpow_natCast, Nat.cast_pow]
    rfl

/-- The integer that a number is said to be is its value, and every integer is said to be one. -/
theorem toInt?_eq_some_iff {d : Dyadic} {n : ℤ} : d.toInt? = some n ↔ d.value = n := by
  obtain ⟨hden, hratio⟩ := ratio_spec d
  have hvalue : d.value = if d.negative then -((d.ratio.1 : ℚ) / d.ratio.2)
      else (d.ratio.1 : ℚ) / d.ratio.2 := by
    rw [value, hratio]
  have hden' : (d.ratio.2 : ℚ) ≠ 0 := Nat.cast_ne_zero.mpr hden.ne'
  rw [toInt?, hvalue]
  simp only
  split
  · rename_i hdvd
    have hquotient : ((d.ratio.1 / d.ratio.2 : ℕ) : ℚ) = (d.ratio.1 : ℚ) / d.ratio.2 :=
      Nat.cast_div (Nat.dvd_of_mod_eq_zero hdvd) hden'
    rw [← hquotient, Option.some_inj]
    split
    · rw [← Int.cast_inj (α := ℚ), Int.cast_neg, Int.cast_natCast]
    · rw [← Int.cast_inj (α := ℚ), Int.cast_natCast]
  · rename_i hdvd
    refine iff_of_false (by simp) fun hint => hdvd ?_
    -- A numerator that is a multiple of the denominator has no rest.
    have hmultiple : ∃ k : ℤ, (d.ratio.1 : ℚ) = k * d.ratio.2 := by
      split at hint
      · exact ⟨-n, by rw [Int.cast_neg, ← hint, neg_neg, div_mul_cancel₀ _ hden']⟩
      · exact ⟨n, by rw [← hint, div_mul_cancel₀ _ hden']⟩
    obtain ⟨k, hk⟩ := hmultiple
    have hk : (d.ratio.1 : ℤ) = k * d.ratio.2 := by exact_mod_cast hk
    exact Nat.mod_eq_zero_of_dvd (Int.natCast_dvd_natCast.mp ⟨k, by rw [hk, mul_comm]⟩)

end Dyadic

/-! ## Natural numbers in floating point -/

theorem le_roundHalfEven (num den : ℕ) : num / den ≤ roundHalfEven num den := by
  unfold roundHalfEven
  simp only
  split_ifs <;> omega

/-- A number beyond two to the power of 63 is rounded down to it up to the middle between it and
the next number of 53 bits. -/
theorem roundToBinary64_le_iff {n : ℕ} (hn : 2 ^ 63 ≤ n) :
    roundToBinary64 n ≤ 2 ^ 63 ↔ n ≤ 2 ^ 63 + 1024 := by
  have hlarge : ¬ n < Nat.pow 2 53 := by
    show ¬ n < 2 ^ 53
    omega
  have hpos : n ≠ 0 := by omega
  have hlog : 63 ≤ n.log2 := (Nat.le_log2 hpos).mpr hn
  unfold roundToBinary64
  rw [if_neg hlarge]
  simp only
  rcases Nat.lt_or_ge n (2 ^ 64) with hlt | hge
  · have hlog' : n.log2 < 64 := (Nat.log2_lt hpos).mpr hlt
    have hunit : Nat.pow 2 (n.log2 - 52) = 2048 := by
      rw [show n.log2 - 52 = 11 by omega]
    rw [hunit]
    unfold roundHalfEven
    simp only
    split_ifs <;> omega
  · refine iff_of_false ?_ (by omega)
    -- The leading bit alone is more.
    have hlog' : 64 ≤ n.log2 := (Nat.le_log2 hpos).mpr hge
    have hsplit : 2 ^ n.log2 = 2 ^ 52 * 2 ^ (n.log2 - 52) := by
      rw [← Nat.pow_add, Nat.add_sub_cancel' (by omega)]
    have hquotient : 2 ^ 52 ≤ n / 2 ^ (n.log2 - 52) := by
      rw [Nat.le_div_iff_mul_le (Nat.two_pow_pos _), ← hsplit]
      exact Nat.log2_self_le hpos
    have hunit : 2 ^ 12 ≤ 2 ^ (n.log2 - 52) := Nat.pow_le_pow_right (by omega) (by omega)
    have hround : 2 ^ 52 ≤ roundHalfEven n (2 ^ (n.log2 - 52)) :=
      hquotient.trans (le_roundHalfEven _ _)
    have hprod : 2 ^ 52 * 2 ^ 12 ≤ roundHalfEven n (2 ^ (n.log2 - 52)) * 2 ^ (n.log2 - 52) :=
      Nat.mul_le_mul hround hunit
    show ¬ roundHalfEven n (2 ^ (n.log2 - 52)) * 2 ^ (n.log2 - 52) ≤ 2 ^ 63
    omega

end Gateway
