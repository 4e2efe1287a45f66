import Gateway.Domain.ClassTables
import Gateway.Domain.Composition
import Gateway.Domain.MappingTable
import Gateway.Domain.Punycode

/-!
# Domain names

`toAscii?` gives the ASCII form of a domain name. Letters go to lower case and
compatibility variants to the characters they stand for; labels with other than ASCII
characters must be well formed and are written in Punycode behind `xn--`.
-/

namespace Gateway.Domain

/-- Characters of ASCII that no name of a host may hold, besides controls and blanks. -/
def deniedMarks : List Char :=
  ['%', '#', '/', ':', '<', '>', '?', '@', '[', '\\', ']', '^', '|']

def isDenied (c : Char) : Bool :=
  c.toNat ≤ 0x20 || c.toNat = 0x7F || deniedMarks.contains c

def isAscii (c : Char) : Bool := c.toNat < 0x80

/-- Replaces the characters of a name, or refuses it. -/
def mapAll? : List Char → Option (List Char)
  | [] => some []
  | c :: rest =>
      if isAscii c then (mapAll? rest).map (c.toLower :: ·)
      else
        match mapped? c, mapAll? rest with
        | some cs, some more => some (cs ++ more)
        | _, _ => none

/-- The labels between the dots. -/
def labels (cs : List Char) : List (List Char) :=
  cs.splitOn '.'

def joinLabels : List (List Char) → List Char
  | [] => []
  | [l] => l
  | l :: rest => l ++ '.' :: joinLabels rest

def punycodeMark : List Char := ['x', 'n', '-', '-']

def nonJoiner : Char := Char.ofNat 0x200C
def joiner : Char := Char.ofNat 0x200D

/-- The combining class of the signs that suppress a vowel. -/
def viramaClass : Nat := 9

def joinsForward (c : Char) : Bool := joining c = .left || joining c = .both
def joinsBackward (c : Char) : Bool := joining c = .right || joining c = .both

/-- Joiners stand behind a vowel suppressor; a non-joiner may also part two letters that
would join. `before` holds the characters before `c`, backwards. -/
def joinerFits (before : List Char) (c : Char) (after : List Char) : Bool :=
  if c = joiner || c = nonJoiner then
    before.head?.any (combiningClass · = viramaClass) ||
      (c = nonJoiner &&
        (before.dropWhile (joining · = .transparent)).head?.any joinsForward &&
        (after.dropWhile (joining · = .transparent)).head?.any joinsBackward)
  else true

def joinersFit : List Char → List Char → Bool
  | _, [] => true
  | before, c :: rest => joinerFits before c rest && joinersFit (c :: before) rest

def isRightToLeft (d : Direction) : Bool :=
  d = .right || d = .arabicLetter || d = .arabicNumber

/-- Whether a character makes the directions of a name matter. No ASCII character does. -/
def runsLeft (c : Char) : Bool :=
  !isAscii c && isRightToLeft (direction c)

/-- Classes that may stand in labels of both directions. -/
def isNeutral (d : Direction) : Bool :=
  d = .number || d = .numberSign || d = .separator || d = .terminator || d = .neutral ||
    d = .boundary || d = .mark

/-- The rules for labels of names that have right-to-left characters. -/
def directionsFit (label : List Char) : Bool :=
  let ds := label.map direction
  let last := (ds.reverse.dropWhile (· = .mark)).head?
  match ds.head? with
  | none => true
  | some .left =>
      ds.all (fun d => d = .left || isNeutral d) && last.any fun d => d = .left || d = .number
  | some d =>
      (d = .right || d = .arabicLetter) &&
        ds.all (fun d => isRightToLeft d || isNeutral d) &&
        last.any (fun d => isRightToLeft d || d = .number) &&
        !(ds.contains .number && ds.contains .arabicNumber)

/-- Whether a label with other than ASCII characters is well formed. -/
def isWellFormed (label : List Char) : Bool :=
  !label.head?.any isMark && joinersFit [] label &&
    label.all (fun c => !isAscii c || !isDenied c)

/-- A label as it is read: its ASCII form and the characters that it stands for. -/
structure Label where
  ascii : List Char
  unicode : List Char

namespace Label

def maxEncoded : Nat := 2000
def maxDecoded : Nat := 1000

/-- Reads a label in Punycode, which must be the form that the label would be given. -/
def ofPunycode? (cs : List Char) : Option Label :=
  if maxEncoded < cs.length then none
  else
    match Punycode.decode? cs with
    | none => none
    | some unicode =>
        if !unicode.all isAscii && mapAll? unicode = some unicode
            && composed unicode = unicode && isWellFormed unicode
            && !punycodeMark.isPrefixOf unicode && !unicode.contains '.' then
          some ⟨punycodeMark ++ cs, unicode⟩
        else none

def ofMapped? (cs : List Char) : Option Label :=
  if punycodeMark.isPrefixOf cs then ofPunycode? (cs.drop punycodeMark.length)
  else if cs.all isAscii then if cs.any isDenied then none else some ⟨cs, cs⟩
  else if isWellFormed cs && cs.length ≤ maxDecoded then
    some ⟨punycodeMark ++ Punycode.encode cs, cs⟩
  else none

end Label

def toAscii? (cs : List Char) : Option (List Char) := do
  let chars ← mapAll? cs
  let ls ← (labels (composed chars)).mapM Label.ofMapped?
  let mixed := ls.any fun l => l.unicode.any runsLeft
  if mixed && !ls.all (directionsFit ·.unicode) then none
  else some (joinLabels (ls.map (·.ascii)))

end Gateway.Domain
