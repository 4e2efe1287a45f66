/-!
# Places in a YAML text

A cursor is what is left of a text, with the line and column where that begins. Line
breaks are line feeds; two more characters also separate lines and stay what they are.
-/

namespace Gateway.Yaml

def lineSeparator : Char := Char.ofNat 0x2028
def paragraphSeparator : Char := Char.ofNat 0x2029
def nextLine : Char := Char.ofNat 0x85

/-- One line feed for each of the ways to end a line. -/
def unifyBreaks : List Char → List Char
  | '\r' :: '\n' :: rest => '\n' :: unifyBreaks rest
  | c :: rest => (if c = '\r' || c = nextLine then '\n' else c) :: unifyBreaks rest
  | [] => []

/-- Characters that a text may consist of. -/
def isAllowed (c : Char) : Bool :=
  let n := c.toNat
  n = 0x09 || n = 0x0A || n = 0x0D || (0x20 ≤ n && n ≤ 0x7E) || n = 0x85 ||
    (0xA0 ≤ n && n ≤ 0xD7FF) || (0xE000 ≤ n && n ≤ 0xFFFD && n ≠ 0xFEFF) || 0x10000 ≤ n

def isBreak (c : Char) : Bool :=
  c = '\n' || c = lineSeparator || c = paragraphSeparator

def isSpace (c : Char) : Bool := c = ' ' || c = '\t'

def isBlank (c : Char) : Bool := isSpace c || isBreak c

def isWordChar (c : Char) : Bool := c.isAlphanum || c = '_' || c = '-'

structure Cursor where
  rest : List Char
  line : Nat := 0
  column : Nat := 0
  index : Nat := 0

namespace Cursor

def peek? (c : Cursor) : Option Char := c.rest.head?

def advance (c : Cursor) : Cursor :=
  match c.rest with
  | [] => c
  | ch :: rest =>
      if isBreak ch then ⟨rest, c.line + 1, 0, c.index + 1⟩
      else ⟨rest, c.line, c.column + 1, c.index + 1⟩

def skip : Nat → Cursor → Cursor
  | 0, c => c
  | n + 1, c => skip n c.advance

/-- Passes the characters of one line that satisfy `p`. -/
def run (p : Char → Bool) (c : Cursor) : List Char × Cursor :=
  let cs := c.rest.takeWhile fun ch => p ch && !isBreak ch
  (cs, ⟨c.rest.drop cs.length, c.line, c.column + cs.length, c.index + cs.length⟩)

/-- Whether the text at `n` further on is blank or has ended. -/
def isBlankAt (n : Nat) (c : Cursor) : Bool :=
  match c.rest[n]? with
  | some ch => isBlank ch
  | none => true

def isBreakHere (c : Cursor) : Bool := c.peek?.any isBreak

/-- Whether the line has ended here. -/
def atLineEnd (c : Cursor) : Bool :=
  match c.peek? with
  | some ch => isBreak ch
  | none => true

/-- Whether a marker of three characters stands alone at the beginning of a line. -/
def atMarker (mark : Char) (c : Cursor) : Bool :=
  c.column = 0 && c.rest.take 3 = [mark, mark, mark] && c.isBlankAt 3

def atDocumentMarker (c : Cursor) : Bool := c.atMarker '-' || c.atMarker '.'

end Cursor

end Gateway.Yaml
