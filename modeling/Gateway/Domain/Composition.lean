import Gateway.Domain.CompositionTable

/-!
# Composed normal form

Characters are taken apart into letters and marks, the marks behind a letter are put
in the order of their combining classes, and what can be written as one character is
put together again.
-/

namespace Gateway.Domain

namespace Hangul

def base : Nat := 0xAC00
def leads : Nat := 0x1100
def vowels : Nat := 0x1161
def trails : Nat := 0x11A7
def leadCount : Nat := 19
def vowelCount : Nat := 21
def trailCount : Nat := 28
def count : Nat := leadCount * vowelCount * trailCount

def split? (c : Char) : Option (List Char) :=
  let n := c.toNat
  if base ≤ n && n < base + count then
    let s := n - base
    let lead := Char.ofNat (leads + s / (vowelCount * trailCount))
    let vowel := Char.ofNat (vowels + s % (vowelCount * trailCount) / trailCount)
    let trail := s % trailCount
    some (if trail = 0 then [lead, vowel] else [lead, vowel, Char.ofNat (trails + trail)])
  else none

def join? (a b : Char) : Option Char :=
  let m := a.toNat
  let n := b.toNat
  if leads ≤ m && m < leads + leadCount && vowels ≤ n && n < vowels + vowelCount then
    some (Char.ofNat (base + ((m - leads) * vowelCount + (n - vowels)) * trailCount))
  else if base ≤ m && m < base + count && (m - base) % trailCount = 0 && trails < n
      && n < trails + trailCount then
    some (Char.ofNat (m + (n - trails)))
  else none

end Hangul

/-- Composed characters consist of at most this many pairs within each other. -/
def compositionDepth : Nat := 4

def decomposition : Nat → Char → List Char
  | 0, c => [c]
  | depth + 1, c =>
      match Hangul.split? c with
      | some parts => parts
      | none =>
          match compositionRows.find? fun row => row[2]? = some c.toNat with
          | some (a :: b :: _) => decomposition depth (Char.ofNat a) ++ [Char.ofNat b]
          | _ => [c]

def composition? (a b : Char) : Option Char :=
  match Hangul.join? a b with
  | some c => some c
  | none =>
      match compositionRows.find? fun row => row.take 2 = [a.toNat, b.toNat] with
      | some [_, _, c] => some (Char.ofNat c)
      | _ => none

/-- Sorts each run of marks by class; marks of one class keep their order. -/
def sortMarks : Nat → List Char → List Char
  | 0, cs => cs
  | _ + 1, [] => []
  | fuel + 1, c :: rest =>
      if combiningClass c = 0 then c :: sortMarks fuel rest
      else
        let marks := (c :: rest).takeWhile (combiningClass · ≠ 0)
        let others := (c :: rest).dropWhile (combiningClass · ≠ 0)
        marks.mergeSort (combiningClass · ≤ combiningClass ·) ++ sortMarks fuel others

/-- Puts characters together. `starter` is the last letter and `between` the marks that
stay behind it, backwards; a mark joins the letter unless one of its class or higher
stands between them. -/
def compose : Option Char → List Char → List Char → List Char
  | starter, between, [] => starter.toList ++ between.reverse
  | none, between, c :: rest =>
      if combiningClass c = 0 then between.reverse ++ compose (some c) [] rest
      else compose none (c :: between) rest
  | some s, between, c :: rest =>
      let blocked := match between with
        | [] => false
        | m :: _ => combiningClass c ≤ combiningClass m
      match if blocked then none else composition? s c with
      | some joined => compose (some joined) between rest
      | none =>
          if combiningClass c = 0 then s :: between.reverse ++ compose (some c) [] rest
          else compose (some s) (c :: between) rest

def composed (cs : List Char) : List Char :=
  if cs.all (·.toNat < 0xC0) then cs
  else
    let apart := cs.flatMap (decomposition compositionDepth)
    compose none [] (sortMarks (apart.length + 1) apart)

end Gateway.Domain
