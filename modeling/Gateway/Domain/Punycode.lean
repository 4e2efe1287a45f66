/-!
# Punycode

Labels with characters beyond ASCII travel as ASCII: first the ASCII characters, then,
behind a hyphen, where the others belong. A number is written with the least digit first
in base 36; a digit below a threshold ends it, and the thresholds adapt to the numbers
written before.
-/

namespace Gateway.Domain.Punycode

def digitChar (d : Nat) : Char :=
  if d < 26 then Char.ofNat (0x61 + d) else Char.ofNat (0x30 + d - 26)

def digitValue? (c : Char) : Option Nat :=
  if 'a' ≤ c && c ≤ 'z' then some (c.toNat - 'a'.toNat)
  else if 'A' ≤ c && c ≤ 'Z' then some (c.toNat - 'A'.toNat)
  else if c.isDigit then some (c.toNat - '0'.toNat + 26)
  else none

/-- The digit at weight position `k` that would still continue a number. -/
def threshold (bias k : Nat) : Nat :=
  if k ≤ bias then 1 else if bias + 26 ≤ k then 26 else k - bias

theorem threshold_pos (bias k : Nat) : 1 ≤ threshold bias k := by
  unfold threshold
  repeat' split
  all_goals omega

theorem threshold_le (bias k : Nat) : threshold bias k ≤ 26 := by
  unfold threshold
  repeat' split
  all_goals omega

def settle (delta k : Nat) : Nat :=
  if h : 455 < delta then settle (delta / 35) (k + 36) else k + 36 * delta / (delta + 38)
termination_by delta
decreasing_by omega

def initialBias : Nat := 72

/-- The bias after a number `delta`, when `size` characters are in place. -/
def adapt (delta size : Nat) (first : Bool) : Nat :=
  let d := if first then delta / 700 else delta / 2
  settle (d + d / size) 0

def numberDigits (bias k q : Nat) : List Char :=
  let t := threshold bias k
  if h : q < t then [digitChar q]
  else digitChar (t + (q - t) % (36 - t)) :: numberDigits bias (k + 36) ((q - t) / (36 - t))
termination_by q
decreasing_by
  have hpos := threshold_pos bias k
  have _hge : ¬ q < threshold bias k := h
  calc (q - threshold bias k) / (36 - threshold bias k)
      ≤ q - threshold bias k := Nat.div_le_self _ _
    _ < q := by omega

/-- Where an encoder stands: the digits so far, the distance counted since the last
character put in place, the bias and the number of characters in place. -/
structure Place where
  digits : List Char
  delta : Nat
  bias : Nat
  size : Nat

/-- Passes one character of the label while those with code `m` are put in place. -/
def Place.visit (basics m : Nat) (p : Place) (c : Char) : Place :=
  if c.toNat < m then { p with delta := p.delta + 1 }
  else if c.toNat = m then
    { digits := p.digits ++ numberDigits p.bias 36 p.delta
      delta := 0
      bias := adapt p.delta (p.size + 1) (p.size = basics)
      size := p.size + 1 }
  else p

/-- Puts the characters with the given codes in place, which rise from `n` on. -/
def Place.insertAll (label : List Char) (basics : Nat) : Nat → Place → List Nat → Place
  | _, p, [] => p
  | n, p, m :: rest =>
      let start := { p with delta := p.delta + (m - n) * (p.size + 1) }
      let done := label.foldl (Place.visit basics m) start
      Place.insertAll label basics (m + 1) { done with delta := done.delta + 1 } rest

def isBasic (c : Char) : Bool := c.toNat < 0x80

def encode (label : List Char) : List Char :=
  let basics := label.filter isBasic
  let codes := (((label.filter (!isBasic ·)).map Char.toNat).mergeSort (· ≤ ·)).eraseDups
  let lead := if basics.isEmpty then [] else basics ++ ['-']
  lead ++ (Place.insertAll label basics.length 0x80 ⟨[], 0, initialBias, basics.length⟩ codes).digits

/-- A number in front of `cs`, added to `acc`, and what follows it. -/
def number? (bias : Nat) : Nat → Nat → Nat → List Char → Option (Nat × List Char)
  | _, _, _, [] => none
  | k, weight, acc, c :: rest =>
      match digitValue? c with
      | none => none
      | some d =>
          let t := threshold bias k
          if d < t then some (acc + d * weight, rest)
          else number? bias (k + 36) (weight * (36 - t)) (acc + d * weight) rest

theorem length_of_number? {bias k w a : Nat} {cs rest : List Char} {n : Nat}
    (h : number? bias k w a cs = some (n, rest)) : rest.length < cs.length := by
  induction cs generalizing k w a with
  | nil => simp [number?] at h
  | cons c cs ih =>
      simp only [number?] at h
      repeat' split at h
      · simp at h
      · simp only [Option.some.injEq, Prod.mk.injEq] at h
        simp [h.2]
      · have := ih h
        simp; omega

def isScalar (n : Nat) : Bool :=
  n < 0xD800 || (0xDFFF < n && n < 0x110000)

/-- Inserts characters into the label `out`, as the numbers in `cs` tell. -/
def insertions? (bias n i : Nat) (out : List Char) (cs : List Char) : Option (List Char) :=
  if cs.isEmpty then some out
  else
    match h : number? bias 36 1 i cs with
    | none => none
    | some (next, rest) =>
        let size := out.length + 1
        let code := n + next / size
        have := length_of_number? h
        if isScalar code then
          insertions? (adapt (next - i) size (i = 0)) code (next % size + 1)
            (out.insertIdx (next % size) (Char.ofNat code)) rest
        else none
termination_by cs.length

/-- The text before the last hyphen and the text behind it. -/
def splitLast (cs : List Char) : List Char × List Char :=
  let behind := (cs.reverse.takeWhile (· ≠ '-')).reverse
  (cs.take (cs.length - behind.length - 1), behind)

def decode? (cs : List Char) : Option (List Char) :=
  let (basics, numbers) := splitLast cs
  if basics.all isBasic then insertions? initialBias 0x80 0 basics numbers else none

end Gateway.Domain.Punycode
