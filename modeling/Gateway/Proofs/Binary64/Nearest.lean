import Mathlib.Algebra.Order.Floor.Semiring
import Mathlib.Data.Int.Log
import Mathlib.Data.Rat.Floor
import Mathlib.Tactic.Linarith
import Mathlib.Tactic.FieldSimp
import Mathlib.Tactic.Positivity

/-!
# The nearest number of 53 bits

Rounding of positive rational numbers to 53 significant bits, or to multiples of
`2 ^ -1074` below the normal numbers; a half goes to the even neighbour. Exponents have no
upper limit here.
-/

namespace Gateway.Binary64

/-! ## Integers -/

/-- The nearest natural number; a half goes to the even one. -/
def toEven (q : ℚ) : ℕ :=
  if q - ⌊q⌋₊ < 1 / 2 then ⌊q⌋₊
  else if 1 / 2 < q - ⌊q⌋₊ then ⌊q⌋₊ + 1
  else ⌊q⌋₊ + ⌊q⌋₊ % 2

theorem toEven_of_lt {q : ℚ} {n : ℕ} (hlo : (n : ℚ) ≤ q) (hhi : q < n + 1 / 2) : toEven q = n := by
  have hfloor : ⌊q⌋₊ = n := by
    rw [Nat.floor_eq_iff (le_trans (Nat.cast_nonneg n) hlo)]
    exact ⟨hlo, by linarith⟩
  unfold toEven
  rw [hfloor, if_pos (by linarith)]

theorem toEven_of_gt {q : ℚ} {n : ℕ} (hlo : (n : ℚ) + 1 / 2 < q) (hhi : q < n + 1) :
    toEven q = n + 1 := by
  have hn : (0 : ℚ) ≤ n := Nat.cast_nonneg n
  have hfloor : ⌊q⌋₊ = n := by
    rw [Nat.floor_eq_iff (by linarith)]
    exact ⟨by linarith, hhi⟩
  unfold toEven
  rw [hfloor, if_neg (by linarith), if_pos (by linarith)]

theorem toEven_of_eq {q : ℚ} {n : ℕ} (h : q = n + 1 / 2) : toEven q = n + n % 2 := by
  have hn : (0 : ℚ) ≤ n := Nat.cast_nonneg n
  have hfloor : ⌊q⌋₊ = n := by
    rw [Nat.floor_eq_iff (by linarith)]
    exact ⟨by linarith, by linarith⟩
  unfold toEven
  rw [hfloor, if_neg (by linarith), if_neg (by linarith)]

@[simp] theorem toEven_natCast (n : ℕ) : toEven n = n :=
  toEven_of_lt le_rfl (by linarith)

theorem toEven_zero : toEven 0 = 0 := by
  simpa using toEven_natCast 0

theorem floor_le_toEven (q : ℚ) : ⌊q⌋₊ ≤ toEven q := by
  unfold toEven
  split_ifs <;> omega

theorem toEven_le_floor (q : ℚ) : toEven q ≤ ⌊q⌋₊ + 1 := by
  unfold toEven
  split_ifs <;> omega

theorem toEven_mono {p q : ℚ} (hpq : p ≤ q) : toEven p ≤ toEven q := by
  have hfloor : ⌊p⌋₊ ≤ ⌊q⌋₊ := Nat.floor_mono hpq
  rcases Nat.lt_or_eq_of_le hfloor with hlt | heq
  · exact (toEven_le_floor p).trans ((Nat.succ_le_of_lt hlt).trans (floor_le_toEven q))
  · -- Between two integers, only the distance to the lower one counts.
    unfold toEven
    rw [heq]
    split_ifs <;> first | omega | (exfalso; linarith)

/-! ## Units -/

/-- The exponent of the last of 53 bits. -/
def ulp (q : ℚ) : ℤ :=
  max (Int.log 2 q - 52) (-1074)

theorem lt_two_zpow_ulp (q : ℚ) : q < 2 ^ (ulp q + 53) := by
  have hlog : q < ((2 : ℕ) : ℚ) ^ (Int.log 2 q + 1) := Int.lt_zpow_succ_log_self one_lt_two q
  refine hlog.trans_le ?_
  rw [Nat.cast_ofNat]
  refine zpow_le_zpow_right₀ one_le_two ?_
  have := le_max_left (Int.log 2 q - 52) (-1074)
  unfold ulp
  omega

theorem two_zpow_ulp_le {q : ℚ} (hq : 0 < q) (hulp : -1074 < ulp q) : 2 ^ (ulp q + 52) ≤ q := by
  have hlog : ((2 : ℕ) : ℚ) ^ Int.log 2 q ≤ q := Int.zpow_log_le_self one_lt_two hq
  rw [Nat.cast_ofNat] at hlog
  unfold ulp at hulp ⊢
  have hmax : max (Int.log 2 q - 52) (-1074) + 52 = Int.log 2 q := by omega
  rwa [hmax]

theorem ulp_mono {p q : ℚ} (hp : 0 < p) (hpq : p ≤ q) : ulp p ≤ ulp q := by
  have hlog : Int.log 2 p ≤ Int.log 2 q := Int.log_mono_right hp hpq
  unfold ulp
  omega

theorem le_ulp {q : ℚ} {e : ℤ} (hq : 0 < q) (hle : 2 ^ (e + 52) ≤ q) : e ≤ ulp q := by
  have hlog : e + 52 ≤ Int.log 2 q := by
    rw [← Int.zpow_le_iff_le_log one_lt_two hq]
    exact_mod_cast hle
  unfold ulp
  omega

theorem ulp_le {q : ℚ} {e : ℤ} (hq : 0 < q) (he : -1074 ≤ e) (hhi : q < 2 ^ (e + 53)) :
    ulp q ≤ e := by
  have hlog : Int.log 2 q < e + 53 := by
    rw [← Int.lt_zpow_iff_log_lt one_lt_two hq]
    exact_mod_cast hhi
  unfold ulp
  omega

/-- The unit of a number is known from its bounds. -/
theorem ulp_eq {q : ℚ} {e : ℤ} (he : -1074 ≤ e) (hhi : q < 2 ^ (e + 53)) (hq : 0 < q)
    (hlo : e = -1074 ∨ 2 ^ (e + 52) ≤ q) : ulp q = e := by
  refine le_antisymm (ulp_le hq he hhi) ?_
  rcases hlo with rfl | hle
  · exact le_max_right _ _
  · exact le_ulp hq hle

/-! ## Numbers of 53 bits -/

/-- The mantissa and exponent of a positive number of 53 bits. -/
structure Canonical (m : ℕ) (e : ℤ) : Prop where
  pos : 0 < m
  bits : m < 2 ^ 53
  least : -1074 ≤ e
  normal : 2 ^ 52 ≤ m ∨ e = -1074

theorem two_zpow_pos (e : ℤ) : (0 : ℚ) < 2 ^ e :=
  zpow_pos two_pos e

theorem natCast_mul_lt {m k : ℕ} {e : ℤ} (hm : m < 2 ^ k) : (m : ℚ) * 2 ^ e < 2 ^ (e + k) := by
  rw [zpow_add₀ two_ne_zero, mul_comm, zpow_natCast]
  exact mul_lt_mul_of_pos_left (by exact_mod_cast hm) (two_zpow_pos e)

theorem le_natCast_mul {m k : ℕ} {e : ℤ} (hm : 2 ^ k ≤ m) : (2 : ℚ) ^ (e + k) ≤ m * 2 ^ e := by
  rw [zpow_add₀ two_ne_zero, mul_comm, zpow_natCast]
  exact mul_le_mul_of_nonneg_right (by exact_mod_cast hm) (two_zpow_pos e).le

theorem Canonical.value_pos {m : ℕ} {e : ℤ} (h : Canonical m e) : (0 : ℚ) < m * 2 ^ e :=
  mul_pos (by exact_mod_cast h.pos) (two_zpow_pos e)

theorem Canonical.ulp_eq {m : ℕ} {e : ℤ} (h : Canonical m e) : ulp (m * 2 ^ e) = e := by
  refine Binary64.ulp_eq h.least (natCast_mul_lt h.bits) h.value_pos ?_
  exact h.normal.symm.imp_right le_natCast_mul

/-- The nearest number of 53 bits. -/
def nearest (q : ℚ) : ℚ :=
  toEven (q / 2 ^ ulp q) * 2 ^ ulp q

theorem nearest_zero : nearest 0 = 0 := by
  unfold nearest
  rw [zero_div, toEven_zero, Nat.cast_zero, zero_mul]

theorem nearest_nonneg (q : ℚ) : 0 ≤ nearest q :=
  mul_nonneg (Nat.cast_nonneg _) (two_zpow_pos _).le

/-- A number does not change with the exponent that it is written with. -/
theorem natCast_mul_two_zpow (m : ℕ) {e target : ℤ} (h : target ≤ e) :
    ((m * 2 ^ (e - target).toNat : ℕ) : ℚ) * 2 ^ target = m * 2 ^ e := by
  have heq : e = (e - target).toNat + target := by omega
  conv_rhs => rw [heq, zpow_add₀ two_ne_zero, zpow_natCast]
  push_cast
  ring

/-- Nothing is lost of a number of 53 bits. -/
theorem nearest_eq {m : ℕ} {e : ℤ} (hm : m < 2 ^ 53) (he : -1074 ≤ e) :
    nearest (m * 2 ^ e) = m * 2 ^ e := by
  rcases Nat.eq_zero_or_pos m with rfl | hpos
  · rw [Nat.cast_zero, zero_mul, nearest_zero]
  have hulp : ulp (m * 2 ^ e) ≤ e :=
    ulp_le (mul_pos (by exact_mod_cast hpos) (two_zpow_pos e)) he (natCast_mul_lt hm)
  have hvalue := natCast_mul_two_zpow m hulp
  unfold nearest
  generalize ulp (m * 2 ^ e) = u at hvalue ⊢
  rw [← hvalue, mul_div_cancel_right₀ _ (two_zpow_pos u).ne', toEven_natCast]

theorem nearest_two_pow (n : ℕ) : nearest (2 ^ n) = 2 ^ n := by
  simpa using nearest_eq (m := 1) (e := n) (by norm_num) (by omega)

theorem nearest_one : nearest 1 = 1 :=
  nearest_two_pow 0

theorem Canonical.nearest_eq {m : ℕ} {e : ℤ} (h : Canonical m e) :
    nearest (m * 2 ^ e) = m * 2 ^ e :=
  Binary64.nearest_eq h.bits h.least

theorem toEven_ulp_le (q : ℚ) : toEven (q / 2 ^ ulp q) ≤ 2 ^ 53 := by
  have hle : q / 2 ^ ulp q ≤ ((2 ^ 53 : ℕ) : ℚ) := by
    rw [div_le_iff₀ (two_zpow_pos _)]
    have hlt := lt_two_zpow_ulp q
    rw [zpow_add₀ two_ne_zero, mul_comm] at hlt
    exact_mod_cast hlt.le
  calc toEven (q / 2 ^ ulp q) ≤ toEven ((2 ^ 53 : ℕ) : ℚ) :=
        toEven_mono hle
    _ = 2 ^ 53 := toEven_natCast _

theorem le_toEven_ulp {q : ℚ} (hq : 0 < q) (hulp : -1074 < ulp q) :
    2 ^ 52 ≤ toEven (q / 2 ^ ulp q) := by
  have hle : ((2 ^ 52 : ℕ) : ℚ) ≤ q / 2 ^ ulp q := by
    rw [le_div_iff₀ (two_zpow_pos _)]
    have hlo := two_zpow_ulp_le hq hulp
    rw [zpow_add₀ two_ne_zero, mul_comm] at hlo
    exact_mod_cast hlo
  calc 2 ^ 52 = toEven ((2 ^ 52 : ℕ) : ℚ) := (toEven_natCast _).symm
    _ ≤ toEven (q / 2 ^ ulp q) := toEven_mono hle

theorem nearest_le (q : ℚ) : nearest q ≤ 2 ^ (ulp q + 53) := by
  unfold nearest
  rw [zpow_add₀ two_ne_zero, mul_comm]
  refine mul_le_mul_of_nonneg_left ?_ (two_zpow_pos _).le
  exact_mod_cast toEven_ulp_le q

theorem le_nearest {q : ℚ} (hq : 0 < q) (hulp : -1074 < ulp q) : 2 ^ (ulp q + 52) ≤ nearest q := by
  unfold nearest
  rw [zpow_add₀ two_ne_zero, mul_comm]
  refine mul_le_mul_of_nonneg_right ?_ (two_zpow_pos _).le
  exact_mod_cast le_toEven_ulp hq hulp

theorem nearest_mono {p q : ℚ} (hp : 0 ≤ p) (hpq : p ≤ q) : nearest p ≤ nearest q := by
  rcases hp.eq_or_lt with rfl | hpos
  · rw [nearest_zero]
    exact nearest_nonneg q
  rcases (ulp_mono hpos hpq).eq_or_lt with heq | hlt
  · unfold nearest
    rw [heq]
    refine mul_le_mul_of_nonneg_right ?_ (two_zpow_pos _).le
    have hdiv : p / 2 ^ ulp q ≤ q / 2 ^ ulp q := div_le_div_of_nonneg_right hpq (two_zpow_pos _).le
    exact_mod_cast toEven_mono hdiv
  · -- A power of two lies between numbers with different units.
    have hleast : -1074 ≤ ulp p := le_max_right _ _
    calc nearest p ≤ 2 ^ (ulp p + 53) := nearest_le p
      _ ≤ 2 ^ (ulp q + 52) := zpow_le_zpow_right₀ one_le_two (by omega)
      _ ≤ nearest q := le_nearest (hpos.trans_le hpq) (by omega)

theorem nearest_le_two_pow {q : ℚ} {n : ℕ} (hq : 0 ≤ q) (hle : q ≤ 2 ^ n) : nearest q ≤ 2 ^ n :=
  (nearest_mono hq hle).trans_eq (nearest_two_pow n)

/-- Less than half a unit is lost. -/
theorem Canonical.nearest_add {m : ℕ} {e : ℤ} (h : Canonical m e) {f : ℚ} (hf : 0 ≤ f)
    (hhalf : 2 * f < 2 ^ e) : nearest (m * 2 ^ e + f) = m * 2 ^ e := by
  have hunit := two_zpow_pos e
  have hulp : ulp (m * 2 ^ e + f) = e := by
    refine Binary64.ulp_eq h.least ?_ (by linarith [h.value_pos]) ?_
    · have hsucc : ((m + 1 : ℕ) : ℚ) * 2 ^ e ≤ 2 ^ (e + 53) := by
        rw [zpow_add₀ two_ne_zero, mul_comm]
        exact mul_le_mul_of_nonneg_left (by exact_mod_cast h.bits) hunit.le
      rw [Nat.cast_succ, add_mul, one_mul] at hsucc
      linarith
    · refine h.normal.symm.imp_right fun hm => ?_
      exact (le_natCast_mul hm).trans (by linarith)
  unfold nearest
  rw [hulp, add_div, mul_div_cancel_right₀ _ hunit.ne', toEven_of_lt]
  · linarith [div_nonneg hf hunit.le]
  · have hlt : f / 2 ^ e < 1 / 2 := by
      rw [div_lt_div_iff₀ hunit two_pos]
      linarith
    linarith

end Gateway.Binary64
