import Gateway.Yaml.Scalar

/-!
# Tokens of YAML

A text is a sequence of tokens. Indentation opens and closes block collections, and a
colon makes what stands before it on its line a key. Such a key is known as one only
when its colon is found, so tokens are also put in between earlier ones.
-/

namespace Gateway.Yaml

inductive Token where
  | version (major minor : Nat)
  | tagHandle (handle start : List Char)
  | directivesEnd
  | documentEnd
  | blockSequence
  | blockMapping
  | blockEnd
  | flowSequence
  | flowSequenceEnd
  | flowMapping
  | flowMappingEnd
  | blockEntry
  | flowEntry
  | key
  | value
  | alias (name : List Char)
  | anchor (name : List Char)
  | tag (handle suffix : List Char)
  | scalar (style : Style) (text : List Char)
  deriving DecidableEq, Repr

/-- What may turn out to be a key: the number of tokens before it and its place. -/
structure PossibleKey where
  required : Bool
  before : Nat
  place : Cursor

structure Lexer where
  cursor : Cursor
  tokens : Array Token := #[]
  /-- The column of the innermost block collection. -/
  indent : Int := -1
  outer : List Int := []
  /-- How many brackets are open. -/
  flow : Nat := 0
  keyAllowed : Bool := true
  /-- Possible keys, one for each open bracket and one for the blocks outside. -/
  keys : List (Option PossibleKey) := [none]

namespace Lexer

def push (t : Token) (l : Lexer) : Lexer :=
  { l with tokens := l.tokens.push t }

/-- Puts a token before the one at `i`. -/
def insertToken (i : Nat) (t : Token) (l : Lexer) : Lexer :=
  { l with tokens := (l.tokens.extract 0 i).push t ++ l.tokens.extract i l.tokens.size }

/-- A key longer than this is none. -/
def maxKeyLength : Nat := 1024

/-- Drops possible keys that a line break or their length rule out. -/
def dropStaleKeys (l : Lexer) : Option Lexer := do
  let keys ← l.keys.mapM fun k =>
    match k with
    | some k =>
        if k.place.line < l.cursor.line || k.place.index + maxKeyLength < l.cursor.index then
          if k.required then none else some none
        else some (some k)
    | none => some none
  some { l with keys }

/-- Drops the innermost possible key, which must not be one that is needed. -/
def dropKey (l : Lexer) : Option Lexer :=
  match l.keys with
  | some k :: rest => if k.required then none else some { l with keys := none :: rest }
  | _ => some l

/-- Notes that what follows may be a key. -/
def saveKey (l : Lexer) : Option Lexer :=
  if l.keyAllowed then do
    let required := l.flow = 0 && l.indent = l.cursor.column
    let l ← l.dropKey
    some { l with keys := some ⟨required, l.tokens.size, l.cursor⟩ :: l.keys.tail }
  else some l

/-- Opens a block collection at a column farther right, with its token at `i`. -/
def roll (column : Nat) (i : Nat) (t : Token) (l : Lexer) : Lexer :=
  if l.flow = 0 && l.indent < column then
    { l with indent := column, outer := l.indent :: l.outer }.insertToken i t
  else l

/-- Closes the block collections that began farther right than `column`. -/
def unroll (column : Int) : Nat → Lexer → Lexer
  | 0, l => l
  | fuel + 1, l =>
      if l.flow = 0 && column < l.indent then
        unroll column fuel
          ({ l with indent := l.outer.headD (-1), outer := l.outer.tail }.push .blockEnd)
      else l

def unrollTo (column : Int) (l : Lexer) : Lexer :=
  l.unroll column (l.outer.length + 1)

/-- Passes blanks, comments and empty lines. A tab does not count as a blank where a
block key may begin. -/
def skipToToken : Nat → Lexer → Lexer
  | 0, l => l
  | fuel + 1, l =>
      let (_, c) := l.cursor.run fun ch => ch = ' ' || (ch = '\t' && (l.flow ≠ 0 || !l.keyAllowed))
      let (_, c) := if c.peek? = some '#' then c.run fun _ => true else ([], c)
      if c.isBreakHere then
        skipToToken fuel { l with cursor := c.advance, keyAllowed := l.keyAllowed || l.flow = 0 }
      else { l with cursor := c }

def atEnd (l : Lexer) : Bool := l.cursor.rest.isEmpty

/-- The end of a directive's line. -/
def directiveEnd? (c : Cursor) : Option Cursor :=
  let (_, c) := c.run isSpace
  let (_, c) := if c.peek? = some '#' then c.run fun _ => true else ([], c)
  if c.atLineEnd then some c.advance else none

def number? (cs : List Char) : Option Nat :=
  if cs.isEmpty || 9 < cs.length then none
  else some (cs.foldl (fun n c => n * 10 + (c.toNat - '0'.toNat)) 0)

def versionDirective? (c : Cursor) : Option (Token × Cursor) := do
  let (_, c) := c.run isSpace
  let (major, c) := c.run Char.isDigit
  if c.peek? ≠ some '.' then none
  else
    let (minor, c) := c.advance.run Char.isDigit
    some (.version (← number? major) (← number? minor), c)

/-- A tag handle: an exclamation mark, or a word between two. -/
def tagHandle? (c : Cursor) : Option (List Char × Cursor) :=
  if c.peek? = some '!' then
    let (word, c) := c.advance.run isWordChar
    if c.peek? = some '!' then some ('!' :: word ++ ['!'], c.advance)
    else some ('!' :: word, c)
  else none

def isUriChar (inBrackets : Bool) (c : Char) : Bool :=
  isWordChar c || ";/?:@&=+$.!~*\x27()".toList.contains c ||
    (inBrackets && [',', '[', ']'].contains c)

/-- An octet given in hexadecimal behind a percent sign. -/
def escapedOctet? : List Char → Option Nat
  | '%' :: a :: b :: _ => do some ((← hexValue? a) * 16 + (← hexValue? b))
  | _ => none

/-- How many octets a character has by its first one. -/
def octetCount? (lead : Nat) : Option Nat :=
  if lead < 0x80 then some 1
  else if 0xC0 ≤ lead && lead < 0xE0 then some 2
  else if 0xE0 ≤ lead && lead < 0xF0 then some 3
  else if 0xF0 ≤ lead && lead < 0xF8 then some 4
  else none

/-- The further octets of a character, put behind its bits so far. -/
def escapedTail? : Nat → Nat → List Char → Option Nat
  | 0, code, _ => some code
  | n + 1, code, cs => do
      let octet ← escapedOctet? cs
      if octet / 64 = 2 then escapedTail? n (code * 64 + octet % 64) (cs.drop 3) else none

/-- A character of a tag whose octets are given in hexadecimal, and their number. -/
def uriEscape? (cs : List Char) : Option (Char × Nat) := do
  let lead ← escapedOctet? cs
  let n ← octetCount? lead
  let bits := if n = 1 then lead else lead % Nat.pow 2 (7 - n)
  let code ← escapedTail? (n - 1) bits (cs.drop 3)
  some (Char.ofNat code, n)

/-- Part of a tag, put behind `acc`. -/
def uriRun (inBrackets : Bool) : Nat → List Char → Cursor → Option (List Char × Cursor)
  | 0, acc, c => some (acc, c)
  | fuel + 1, acc, c =>
      match c.rest with
      | [] => some (acc, c)
      | ch :: _ =>
          if ch = '%' then
            match uriEscape? c.rest with
            | some (e, n) => uriRun inBrackets fuel (acc ++ [e]) (c.skip (3 * n))
            | none => none
          else if isUriChar inBrackets ch then uriRun inBrackets fuel (acc ++ [ch]) c.advance
          else some (acc, c)

def tagDirective? (c : Cursor) : Option (Token × Cursor) := do
  let (_, c) := c.run isSpace
  let (handle, c) ← tagHandle? c
  if handle.length ≠ 1 && handle.getLast? ≠ some '!' then none
  else
    let (blanks, c) := c.run isSpace
    if blanks.isEmpty then none
    else
      let (uri, c) ← uriRun true (c.rest.length + 1) [] c
      if uri.isEmpty || !c.isBlankAt 0 then none else some (.tagHandle handle uri, c)

def directive? (c : Cursor) : Option (Token × Cursor) := do
  let (name, c) := c.advance.run isWordChar
  if !c.isBlankAt 0 then none
  else
    let (t, c) ← if name = "YAML".toList then versionDirective? c
      else if name = "TAG".toList then tagDirective? c
      else none
    some (t, ← directiveEnd? c)

/-- The name of an anchor or alias. -/
def anchorName? (c : Cursor) : Option (List Char × Cursor) :=
  let (name, after) := c.advance.run isWordChar
  let ended := match after.peek? with
    | none => true
    | some ch => isBlank ch || "?:,]\x7d%@\x60".toList.contains ch
  if name.isEmpty || !ended then none else some (name, after)

def tag? (inFlow : Bool) (c : Cursor) : Option (Token × Cursor) := do
  let (t, c) ←
    if c.rest[1]? = some '<' then do
      let (uri, c) ← uriRun true (c.rest.length + 1) [] (c.skip 2)
      if uri.isEmpty || c.peek? ≠ some '>' then none else some (Token.tag [] uri, c.advance)
    else do
      let (handle, after) ← tagHandle? c
      if handle.length ≠ 1 && handle.getLast? = some '!' then
        let (suffix, after) ← uriRun false (after.rest.length + 1) [] after
        if suffix.isEmpty then none else some (Token.tag handle suffix, after)
      else
        let (suffix, after) ← uriRun false (after.rest.length + 1) (handle.drop 1) after
        some (if suffix.isEmpty then Token.tag [] ['!'] else Token.tag ['!'] suffix, after)
  if c.isBlankAt 0 || (inFlow && c.peek? = some ',') then some (t, c) else none

/-- Puts in a token of one character. -/
def single (t : Token) (keyAllowed : Bool) (l : Lexer) : Lexer :=
  { l with keyAllowed, cursor := l.cursor.advance }.push t

def openFlow (t : Token) (l : Lexer) : Option Lexer := do
  let l ← l.saveKey
  some ({ l with flow := l.flow + 1, keys := none :: l.keys }.single t true)

def closeFlow (t : Token) (l : Lexer) : Option Lexer := do
  let l ← l.dropKey
  let l := if l.flow = 0 then l else { l with flow := l.flow - 1, keys := l.keys.tail }
  some (l.single t false)

def flowEntry (l : Lexer) : Option Lexer := do
  let l ← l.dropKey
  some (l.single .flowEntry true)

/-- Block entries and keys with a mark begin only where a key might. -/
def blockMark (mark opening : Token) (allowed : Bool) (l : Lexer) : Option Lexer := do
  if l.flow = 0 && !l.keyAllowed then none
  else
    let l := l.roll l.cursor.column l.tokens.size opening
    let l ← l.dropKey
    some (l.single mark allowed)

/-- A colon. What might have been a key becomes one. -/
def valueMark (l : Lexer) : Option Lexer :=
  match l.keys with
  | some k :: rest =>
      let l := { l with keys := none :: rest }.insertToken k.before .key
      some ((l.roll k.place.column k.before .blockMapping).single .value false)
  | _ =>
      if l.flow = 0 && !l.keyAllowed then none
      else
        some ((l.roll l.cursor.column l.tokens.size .blockMapping).single .value (l.flow = 0))

def withToken (l : Lexer) (keyAllowed : Bool) (t : Token) (c : Cursor) : Lexer :=
  { l with cursor := c, keyAllowed }.push t

def marker (t : Token) (l : Lexer) : Option Lexer := do
  let l ← (l.unrollTo (-1)).dropKey
  some (l.withToken false t (l.cursor.skip 3))

def quoted (double : Bool) (l : Lexer) : Option Lexer := do
  let l ← l.saveKey
  let s ← scanQuoted double (l.cursor.rest.length + 2) [] l.cursor.advance
  some (l.withToken false (.scalar .quoted s.text) s.cursor)

def block (folded : Bool) (l : Lexer) : Option Lexer := do
  let l ← l.dropKey
  let s ← scanBlock folded l.indent l.cursor.advance
  some (l.withToken true (.scalar (if folded then .folded else .literal) s.text) s.cursor)

def plain (l : Lexer) : Option Lexer := do
  let l ← l.saveKey
  let s ← scanPlain (l.flow ≠ 0) (l.indent + 1).toNat (l.cursor.rest.length + 2) {} [] l.cursor
  some (l.withToken s.lineEnded (.scalar .plain s.text) s.cursor)

/-- Characters that a plain scalar does not begin with, or only before a word. -/
def indicators : List Char :=
  "-?:,[]\x7b\x7d#&*!|>\x27\"%@\x60".toList

def beginsPlain (l : Lexer) (ch : Char) : Bool :=
  !(isBlank ch || indicators.contains ch) ||
    (ch = '-' && !(l.cursor.rest[1]?.any isSpace)) ||
    (l.flow = 0 && (ch = '?' || ch = ':') && !l.cursor.isBlankAt 1)

/-- Puts in the next token, which begins with `ch`. -/
def next (ch : Char) (l : Lexer) : Option Lexer :=
  let c := l.cursor
  let stands := l.flow ≠ 0 || c.isBlankAt 1
  if c.column = 0 && ch = '%' then do
    let l ← (l.unrollTo (-1)).dropKey
    let (t, c) ← directive? l.cursor
    some (l.withToken false t c)
  else if c.atMarker '-' then l.marker .directivesEnd
  else if c.atMarker '.' then l.marker .documentEnd
  else if ch = '[' then l.openFlow .flowSequence
  else if ch = '\x7b' then l.openFlow .flowMapping
  else if ch = ']' then l.closeFlow .flowSequenceEnd
  else if ch = '\x7d' then l.closeFlow .flowMappingEnd
  else if ch = ',' then l.flowEntry
  else if ch = '-' && c.isBlankAt 1 then l.blockMark .blockEntry .blockSequence true
  else if ch = '?' && stands then l.blockMark .key .blockMapping (l.flow = 0)
  else if ch = ':' && stands then l.valueMark
  else if ch = '*' then do
    let l ← l.saveKey
    let (name, c) ← anchorName? c
    some (l.withToken false (.alias name) c)
  else if ch = '&' then do
    let l ← l.saveKey
    let (name, c) ← anchorName? c
    some (l.withToken false (.anchor name) c)
  else if ch = '!' then do
    let l ← l.saveKey
    let (t, c) ← tag? (l.flow ≠ 0) c
    some (l.withToken false t c)
  else if ch = '|' && l.flow = 0 then l.block false
  else if ch = '>' && l.flow = 0 then l.block true
  else if ch = '\x27' then l.quoted false
  else if ch = '"' then l.quoted true
  else if l.beginsPlain ch then l.plain
  else none

def scanAll : Nat → Lexer → Option (Array Token)
  | 0, _ => none
  | fuel + 1, l => do
      let l ← (l.skipToToken (l.cursor.rest.length + 1)).dropStaleKeys
      match l.cursor.peek? with
      | none =>
          let l ← (l.unrollTo (-1)).dropKey
          some l.tokens
      | some ch =>
          let l ← (l.unrollTo l.cursor.column).next ch
          scanAll fuel l

end Lexer

/-- The tokens of a text. -/
def tokens? (cs : List Char) : Option (List Token) :=
  if cs.all isAllowed then
    let cs := unifyBreaks cs
    (Lexer.scanAll (cs.length + 2) { cursor := ⟨cs, 0, 0, 0⟩ }).map Array.toList
  else none

end Gateway.Yaml
