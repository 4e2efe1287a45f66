/-!
# Floating point numbers as exact dyadic values

A finite floating point number is `m · 2 ^ e` for a natural `m` and an integer `e`.
Everything that must be exact about such a number (whether it is an integer, where it
stands between two decimals, which nanosecond is nearest) is computed on this form.
-/

namespace Gateway

/-- The magnitude `mantissa · 2 ^ exponent` with a sign. -/
structure Dyadic where
  negative : Bool
  mantissa : Nat
  exponent : Int
  deriving DecidableEq, Repr

namespace Dyadic

/-- The value of a finite number; infinities and NaN have none. -/
def ofFloat? (x : Float) : Option Dyadic :=
  let bits := x.toBits.toNat
  let fraction : Nat := bits % Nat.pow 2 52
  let biased : Nat := bits / Nat.pow 2 52 % Nat.pow 2 11
  let negative := bits / Nat.pow 2 63 = 1
  if biased = 2047 then none
  else if biased = 0 then some ⟨negative, fraction, -1074⟩
  else some ⟨negative, fraction + Nat.pow 2 52, Int.ofNat biased - 1075⟩

/-- Numerator and denominator of the magnitude. -/
def ratio (d : Dyadic) : Nat × Nat :=
  if 0 ≤ d.exponent then (d.mantissa * Nat.pow 2 d.exponent.toNat, 1)
  else (d.mantissa, Nat.pow 2 (-d.exponent).toNat)

/-- The magnitude rounded up to a whole number. -/
def ceil (d : Dyadic) : Nat :=
  let (num, den) := d.ratio
  (num + den - 1) / den

/-- The integer that the number is, if it is one. -/
def toInt? (d : Dyadic) : Option Int :=
  let (num, den) := d.ratio
  if num % den = 0 then
    some (if d.negative then -((num / den : Nat) : Int) else ((num / den : Nat) : Int))
  else none

end Dyadic

/-- The nearest integer to `num / den`; a half goes to the even neighbour. -/
def roundHalfEven (num den : Nat) : Nat :=
  let q := num / den
  let r := num % den
  if 2 * r < den then q
  else if den < 2 * r then q + 1
  else if q % 2 = 0 then q else q + 1

/-- The natural number nearest to `n` that has at most 53 significant bits. -/
def roundToBinary64 (n : Nat) : Nat :=
  if n < Nat.pow 2 53 then n
  else
    let unit := Nat.pow 2 (n.log2 - 52)
    roundHalfEven n unit * unit

end Gateway
