/-!
# Internet addresses

Addresses of four octets are written in decimal. Addresses of eight groups are written
in hexadecimal; the longest run of at least two zero groups, the first of equal ones, is
left out between two colons, and the last two groups may be given as four octets.
-/

namespace Gateway

structure Ipv4 where
  bits : UInt32
  deriving DecidableEq, Repr

namespace Ipv4

def octet (a : Ipv4) (i : Nat) : Nat :=
  a.bits.toNat / Nat.pow 256 (3 - i) % 256

def text (a : Ipv4) : String :=
  ".".intercalate ((List.range 4).map fun i => toString (a.octet i))

def ofOctets (a b c d : Nat) : Ipv4 :=
  ⟨UInt32.ofNat (((a * 256 + b) * 256 + c) * 256 + d)⟩

def loopback : Ipv4 := ofOctets 127 0 0 1
def unspecified : Ipv4 := ofOctets 0 0 0 0

/-- One to three digits without a leading zero, at most 255. -/
def octet? (cs : List Char) : Option (Nat × List Char) :=
  let ds := (cs.take 3).takeWhile Char.isDigit
  let n := ds.foldl (fun n c => n * 10 + (c.toNat - '0'.toNat)) 0
  if ds.isEmpty || (ds.head? = some '0' && ds.length ≠ 1) || 255 < n then none
  else if (cs.drop ds.length).head?.any Char.isDigit then none
  else some (n, cs.drop ds.length)

def dot? : List Char → Option (List Char)
  | '.' :: rest => some rest
  | _ => none

/-- An address in front of `cs` and what follows it. -/
def scan? (cs : List Char) : Option (Ipv4 × List Char) := do
  let (a, r) ← octet? cs
  let (b, r) ← octet? (← dot? r)
  let (c, r) ← octet? (← dot? r)
  let (d, r) ← octet? (← dot? r)
  pure (ofOctets a b c d, r)

end Ipv4

structure Ipv6 where
  groups : Vector UInt16 8
  deriving DecidableEq, Repr

namespace Ipv6

def hexText (n : Nat) : String :=
  String.ofList (Nat.toDigits 16 n)

def zerosAt (groups : List UInt16) (i : Nat) : Nat :=
  ((groups.drop i).takeWhile (· = 0)).length

/-- Start and length of the first longest run of zero groups. -/
def longestZeros (groups : List UInt16) : Nat × Nat :=
  (List.range groups.length).foldl
    (fun best i => if best.2 < zerosAt groups i then (i, zerosAt groups i) else best) (0, 0)

def groupsText (groups : List UInt16) : String :=
  ":".intercalate (groups.map fun g => hexText g.toNat)

/-- All groups in hexadecimal. -/
def text (a : Ipv6) : String :=
  let groups := a.groups.toList
  let (start, length) := longestZeros groups
  if length < 2 then groupsText groups
  else groupsText (groups.take start) ++ "::" ++ groupsText (groups.drop (start + length))

/-- The address of four octets that is embedded behind `::ffff:`. -/
def mapped? (a : Ipv6) : Option Ipv4 :=
  match a.groups.toList with
  | [0, 0, 0, 0, 0, 0xFFFF, hi, lo] => some ⟨UInt32.ofNat (hi.toNat * 65536 + lo.toNat)⟩
  | _ => none

/-- Embedded addresses show their octets. -/
def mixedText (a : Ipv6) : String :=
  match a.mapped? with
  | some v4 => "::ffff:" ++ v4.text
  | none => a.text

def hexDigit? (c : Char) : Option Nat :=
  if c.isDigit then some (c.toNat - '0'.toNat)
  else if 'a' ≤ c && c ≤ 'f' then some (c.toNat - 'a'.toNat + 10)
  else if 'A' ≤ c && c ≤ 'F' then some (c.toNat - 'A'.toNat + 10)
  else none

/-- One to four hexadecimal digits. -/
def group? (cs : List Char) : Option (UInt16 × List Char) :=
  let ds := ((cs.take 4).takeWhile fun c => (hexDigit? c).isSome).filterMap hexDigit?
  if ds.isEmpty then none
  else
    let rest := cs.drop ds.length
    if (rest.head?.bind hexDigit?).isSome then none
    else some (UInt16.ofNat (ds.foldl (fun n d => n * 16 + d) 0), rest)

/-- The text of the next element of a sequence separated by colons. -/
def afterColon? (first : Bool) (cs : List Char) : Option (List Char) :=
  if first then some cs
  else match cs with
    | ':' :: rest => some rest
    | _ => none

/-- At most `room` groups in front of `cs`, and whether the last two were four octets. -/
def groupsUpTo (first : Bool) : Nat → List Char → List UInt16 × Bool × List Char
  | 0, cs => ([], false, cs)
  | room + 1, cs =>
      let octets := if room = 0 then none else (afterColon? first cs).bind Ipv4.scan?
      match octets with
      | some (v4, rest) =>
          ([UInt16.ofNat (v4.bits.toNat / 65536), UInt16.ofNat (v4.bits.toNat % 65536)], true, rest)
      | none =>
          match (afterColon? first cs).bind group? with
          | none => ([], false, cs)
          | some (g, rest) =>
              let (gs, octets, rest) := groupsUpTo false room rest
              (g :: gs, octets, rest)

def ofGroups? (groups : List UInt16) : Option Ipv6 :=
  if h : groups.length = 8 then some ⟨⟨groups.toArray, by simpa using h⟩⟩ else none

/-- An address in front of `cs` and what follows it. -/
def scan? (cs : List Char) : Option (Ipv6 × List Char) :=
  match groupsUpTo true 8 cs with
  | (head, octets, rest) =>
      if head.length = 8 then (ofGroups? head).map (·, rest)
      else if octets then none
      else
        match rest with
        | ':' :: ':' :: rest =>
            let (tail, _, rest) := groupsUpTo true (7 - head.length) rest
            let zeros := List.replicate (8 - head.length - tail.length) 0
            (ofGroups? (head ++ zeros ++ tail)).map (·, rest)
        | _ => none

def parse? (cs : List Char) : Option Ipv6 :=
  match scan? cs with
  | some (a, []) => some a
  | _ => none

end Ipv6

/-- An address of either kind. -/
inductive Ip where
  | v4 (a : Ipv4)
  | v6 (a : Ipv6)
  deriving DecidableEq, Repr

def Ip.text : Ip → String
  | .v4 a => a.text
  | .v6 a => a.mixedText

end Gateway
