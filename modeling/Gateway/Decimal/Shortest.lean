import Gateway.Decimal.Binary64

/-!
# Shortest decimals

A floating point number is written with the fewest decimal digits that read back as the
same number, and with the nearest such digits when several exist. `Shortest.digits`
tests, for one digit, two digits and so on, the two neighbours of the number on that
decimal grid; `positional` and `scientific` lay the digits out.
-/

namespace Gateway.Shortest

/-- The significant digits and the power of ten of their last digit. -/
structure Decimal where
  coefficient : Nat
  exponent : Int
  deriving DecidableEq, Repr

def scale (num den : Nat) (p : Int) : Nat × Nat :=
  if 0 ≤ p then (num, den * Nat.pow 10 p.toNat) else (num * Nat.pow 10 (-p).toNat, den)

/-- Whether `10 ^ t` is at most `num / den`. -/
def powerLe (num den : Nat) (t : Int) : Bool :=
  let (n, d) := scale num den t
  d ≤ n

def climb (num den : Nat) : Nat → Int → Int
  | 0, t => t
  | fuel + 1, t => if powerLe num den (t + 1) then climb num den fuel (t + 1) else t

/-- The largest `t` with `10 ^ t ≤ num / den`, found from the binary logarithms. -/
def decade (num den : Nat) : Int :=
  let bits : Int := (num.log2 : Int) - (den.log2 : Int) - 1
  climb num den 4 (bits * 30103 / 100000 - 1)

/-- The numbers that round to `m · 2 ^ e`, as a closed or open interval
`[low, high] / den`. -/
structure Interval where
  low : Nat
  value : Nat
  high : Nat
  den : Nat
  closed : Bool

def interval (d : Dyadic) : Interval :=
  let gap := if d.mantissa = Nat.pow 2 52 && -1074 < d.exponent then 1 else 2
  let (num, den) := (Dyadic.mk false 1 (d.exponent - 2)).ratio
  { low := (4 * d.mantissa - gap) * num
    value := 4 * d.mantissa * num
    high := (4 * d.mantissa + 2) * num
    den := den
    closed := d.mantissa % 2 = 0 }

/-- Whether `q · 10 ^ p` rounds to the number. -/
def Interval.holds (i : Interval) (q : Nat) (p : Int) : Bool :=
  let (n, d) := if 0 ≤ p then (q * Nat.pow 10 p.toNat * i.den, 1) else (q * i.den, Nat.pow 10 (-p).toNat)
  if i.closed then i.low * d ≤ n && n ≤ i.high * d
  else i.low * d < n && n < i.high * d

/-- The neighbour of the number on the grid of `10 ^ p` that reads back, the nearer of two. -/
def onGrid (i : Interval) (p : Int) : Option Nat :=
  let (n, d) := scale i.value i.den p
  let q := n / d
  let r := n % d
  let below := i.holds q p && 0 < q
  let above := i.holds (q + 1) p
  if below && above then
    some (if 2 * r < d || (2 * r = d && q % 2 = 0) then q else q + 1)
  else if below then some q
  else if above then some (q + 1)
  else none

def search (i : Interval) (p : Int) : Nat → Decimal
  | 0 => let (n, d) := scale i.value i.den p; ⟨n / d, p⟩
  | fuel + 1 =>
      match onGrid i p with
      | some q => ⟨q, p⟩
      | none => search i (p - 1) fuel

/-- The shortest digits of a number; zero has the single digit 0. -/
def digits (d : Dyadic) : Decimal :=
  if d.mantissa = 0 then ⟨0, 0⟩
  else
    let i := interval d
    search i (decade i.value i.den) 17

def trim (fuel : Nat) (d : Decimal) : Decimal :=
  match fuel with
  | 0 => d
  | fuel + 1 =>
      if d.coefficient ≠ 0 && d.coefficient % 10 = 0 then
        trim fuel ⟨d.coefficient / 10, d.exponent + 1⟩
      else d

def zeros (n : Nat) : List Char :=
  List.replicate n '0'

/-- The exponent of the first digit. -/
def Decimal.leading (d : Decimal) : Int :=
  d.exponent + (Nat.toDigits 10 d.coefficient).length - 1

/-- Digits with the decimal point in its place; a whole number ends in `whole`. -/
def positional (whole : String) (d : Decimal) : String :=
  let ds := Nat.toDigits 10 d.coefficient
  let point := d.exponent + ds.length
  if 0 ≤ d.exponent then String.ofList (ds ++ zeros d.exponent.toNat) ++ whole
  else if point ≤ 0 then String.ofList ('0' :: '.' :: zeros (-point).toNat ++ ds)
  else String.ofList (ds.take point.toNat ++ '.' :: ds.drop point.toNat)

/-- One digit before the point and a signed exponent. -/
def scientific (d : Decimal) : String :=
  let ds := Nat.toDigits 10 d.coefficient
  let head := match ds with
    | [c] => [c]
    | c :: rest => c :: '.' :: rest
    | [] => []
  let e := d.leading
  String.ofList head ++ "e" ++ (if e < 0 then "-" else "+") ++ toString e.natAbs

def signed (negative : Bool) (s : String) : String :=
  if negative then "-" ++ s else s

/-- Without exponent, and whole numbers without a point. Infinities and NaN are spelled out. -/
def plain (x : Float) : String :=
  match Dyadic.ofFloat? x with
  | some d => signed d.negative (positional "" (trim 20 (digits d)))
  | none =>
      if x.isNaN then "NaN" else signed (x.toBits.toNat / Nat.pow 2 63 = 1) "inf"

end Gateway.Shortest
