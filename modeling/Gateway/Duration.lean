import Gateway.Decimal.Binary64

/-!
# Durations

Instants and durations are whole nanoseconds. This module converts between nanoseconds
and seconds in floating point and writes a duration with the largest unit that gives it
a nonzero whole part.
-/

namespace Gateway.Duration

def second : Nat := 1000000000

def ofMillis (ms : Nat) : Nat := ms * 1000000

/-- Durations have at most `2 ^ 64` seconds. -/
def secondsLimit : Nat := Nat.pow 2 64

/-- The nearest nanosecond, a half going to the even one. Negative, too long and
undefined times are no durations. -/
def ofSeconds? (x : Float) : Option Nat :=
  match Dyadic.ofFloat? x with
  | none => none
  | some d =>
      let (num, den) := d.ratio
      if d.negative && d.mantissa ≠ 0 then none
      else if secondsLimit * den ≤ num then none
      else some (roundHalfEven (num * second) den)

/-- Seconds in floating point: whole seconds plus the fraction, each rounded. -/
def toSeconds (nanos : Nat) : Float :=
  Float.ofNat (nanos / second) + Float.ofNat (nanos % second) / 1e9

def dropTrailingZeros (cs : List Char) : List Char :=
  (cs.reverse.dropWhile (· = '0')).reverse

/-- A whole part and a fraction of `places` digits without its trailing zeros. -/
def withFraction (whole fraction places : Nat) : String :=
  let ds := Nat.toDigits 10 fraction
  let padded := List.replicate (places - ds.length) '0' ++ ds
  match dropTrailingZeros padded with
  | [] => toString whole
  | cs => toString whole ++ "." ++ String.ofList cs

def text (nanos : Nat) : String :=
  if second ≤ nanos then withFraction (nanos / second) (nanos % second) 9 ++ "s"
  else if 1000000 ≤ nanos then withFraction (nanos / 1000000) (nanos % 1000000) 6 ++ "ms"
  else if 1000 ≤ nanos then withFraction (nanos / 1000) (nanos % 1000) 3 ++ "µs"
  else toString nanos ++ "ns"

end Gateway.Duration
