import Gateway.Json.Basic
import Gateway.Json.Syntax
import Gateway.Text.Utf8

/-!
# Reading JSON values

A document has a value when its containers nest fewer than 128 deep, its strings name
characters only and its numbers are in range. Whole numbers of 64 bits stay integers.
All others become floating point: the first digits that fit into 64 bits are taken as
an integer and scaled by a power of ten, each of the two steps rounding once.
-/

namespace Gateway.Json

/-- The digits that fit into 64 bits, and the number of further digits. -/
def significand (limit : Nat) : Nat → List Char → Nat × Nat
  | acc, [] => (acc, 0)
  | acc, c :: rest =>
      let next := acc * 10 + (c.toNat - '0'.toNat)
      if next < limit then significand limit next rest else (acc, rest.length + 1)

/-- `f · 10 ^ e`, rounded at each step; nothing when it is too large. -/
def scaleBy : Nat → Float → Int → Option Float
  | 0, _, _ => none
  | fuel + 1, f, e =>
      if e.natAbs ≤ 308 then
        let power := Float.ofScientific 1 false e.natAbs
        if 0 ≤ e then
          let g := f * power
          if g.isInf then none else some g
        else some (f / power)
      else if f == 0.0 then some f
      else if 0 ≤ e then none
      else scaleBy fuel (f / 1e308) (e + 308)

def digitsToNat (ds : List Char) : Nat :=
  ds.foldl (fun n c => n * 10 + (c.toNat - '0'.toNat)) 0

def word : Nat := Nat.pow 2 64

def Numeral.toFloat? (n : Numeral) : Option Float :=
  let (whole, dropped) := significand word 0 n.whole
  let frac := n.fraction.getD []
  let (sig, unread) := significand word whole frac
  let shift : Int := Int.ofNat dropped - Int.ofNat (frac.length - unread)
  let written : Int := match n.exponent with
    | none => 0
    | some (minus, ds) => if minus then -Int.ofNat (digitsToNat ds) else Int.ofNat (digitsToNat ds)
  let tooLong := n.exponent.any fun (_, ds) => Nat.pow 2 31 ≤ digitsToNat ds
  let magnitude :=
    if tooLong then (if sig ≠ 0 && 0 < written then none else some 0.0)
    else scaleBy 8000000 (Float.ofNat sig) (shift + written)
  magnitude.map fun f => if n.negative then -f else f

/-- Integers of 64 bits, signed or unsigned. A negative zero is floating point. -/
def Numeral.toInt? (n : Numeral) : Option Int :=
  if n.fraction.isSome || n.exponent.isSome then none
  else
    let m := digitsToNat n.whole
    if n.negative then if m = 0 || Nat.pow 2 63 < m then none else some (-(m : Int))
    else if m < word then some m else none

def Numeral.value? (n : Numeral) : Option Json :=
  match n.toInt? with
  | some i => some (.int i)
  | none => n.toFloat?.map .real

mutual

/-- The value of a document whose containers nest at most `depth` deep. -/
def Document.value? (depth : Nat) : Document → Option Json
  | .null => some .null
  | .bool b => some (.bool b)
  | .num n => n.value?
  | .str s => s.map .str
  | .arr items => if depth = 0 then none else (itemsValue? (depth - 1) items).map .arr
  | .obj fields => if depth = 0 then none else (fieldsValue? (depth - 1) fields).map ofFields

def itemsValue? (depth : Nat) : List Document → Option (List Json)
  | [] => some []
  | d :: rest =>
      match d.value? depth, itemsValue? depth rest with
      | some v, some vs => some (v :: vs)
      | _, _ => none

def fieldsValue? (depth : Nat) : List (Option String × Document) → Option (List (String × Json))
  | [] => some []
  | (name, d) :: rest =>
      match name, d.value? depth, fieldsValue? depth rest with
      | some n, some v, some vs => some ((n, v) :: vs)
      | _, _, _ => none

end

/-- Containers may nest this deep. -/
def nestingLimit : Nat := 127

def readChars? (cs : List Char) : Option Json :=
  (Document.read? cs).bind (Document.value? nestingLimit)

def read? (s : String) : Option Json :=
  readChars? s.toList

def readBytes? (b : Bytes) : Option Json :=
  (Utf8.decodeChars b).bind readChars?

end Gateway.Json
