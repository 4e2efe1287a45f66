import Gateway.Yaml.Cursor

/-!
# Scalars

Scalars are plain, in single or double quotes, or blocks of lines. In the first three a
line break between two words reads as a blank, and a run of several breaks as one break
less. Blocks keep their breaks, or fold them in the same way.
-/

namespace Gateway.Yaml

inductive Style where
  | plain
  | quoted
  | literal
  | folded
  deriving DecidableEq, Repr

/-- What lies between two words: the blanks of one line, or a first break and the breaks
that follow it. -/
structure Gap where
  spaces : List Char := []
  first : Option (List Char) := none
  more : List Char := []

namespace Gap

def isEmpty (g : Gap) : Bool := g.spaces.isEmpty && g.first.isNone

/-- How a gap reads. -/
def text (g : Gap) : List Char :=
  match g.first with
  | none => g.spaces
  | some ['\n'] => if g.more.isEmpty then [' '] else g.more
  | some b => b ++ g.more

/-- Passes blanks and breaks. On later lines of a plain scalar no tab may stand before
column `indent`. -/
def scan (indent : Option Nat) : Nat → Gap → Cursor → Option (Gap × Cursor)
  | 0, _, _ => none
  | fuel + 1, g, c =>
      match c.peek? with
      | none => some (g, c)
      | some ch =>
          if isSpace ch then
            if g.first.isSome && ch = '\t' && indent.any (c.column < ·) then none
            else if g.first.isSome then scan indent fuel g c.advance
            else scan indent fuel { g with spaces := g.spaces ++ [ch] } c.advance
          else if isBreak ch then
            if g.first.isSome then scan indent fuel { g with more := g.more ++ [ch] } c.advance
            else scan indent fuel { g with spaces := [], first := some [ch] } c.advance
          else some (g, c)

end Gap

def isFlowMark (c : Char) : Bool :=
  c = ',' || c = '[' || c = ']' || c = '\x7b' || c = '\x7d'

/-- The length of a word of a plain scalar. A colon ends it before a blank, and within
brackets it must not stand before a mark. -/
def plainLength (inFlow : Bool) : List Char → Option Nat
  | [] => some 0
  | c :: rest =>
      if isBlank c then some 0
      else if inFlow && c = ':' && (rest.head?.any fun d => isFlowMark d || d = '?') then none
      else if c = ':' && (rest.head?.all isBlank) then some 0
      else if inFlow && isFlowMark c then some 0
      else (plainLength inFlow rest).map (· + 1)

/-- What a scan of a scalar came to: its text, the place behind it, and whether it ended
with a line. -/
structure Scanned where
  text : List Char
  cursor : Cursor
  lineEnded : Bool := false

/-- A plain scalar, whose later lines must stand at column `indent` or behind. -/
def scanPlain (inFlow : Bool) (indent : Nat) : Nat → Gap → List Char → Cursor → Option Scanned
  | 0, _, _, _ => none
  | fuel + 1, gap, acc, c =>
      let ended : Scanned := ⟨acc, c, gap.first.isSome⟩
      if c.atDocumentMarker || c.peek? = some '#' then some ended
      else
        match plainLength inFlow c.rest with
        | none => none
        | some 0 => some ended
        | some n =>
            let acc := acc ++ gap.text ++ c.rest.take n
            let c := c.skip n
            match Gap.scan (some indent) (c.rest.length + 1) {} c with
            | none => none
            | some (gap, after) =>
                if gap.isEmpty then some ⟨acc, after, false⟩
                else if !inFlow && after.column < indent then some ⟨acc, after, gap.first.isSome⟩
                else scanPlain inFlow indent fuel gap acc after

def hexValue? (c : Char) : Option Nat :=
  if c.isDigit then some (c.toNat - '0'.toNat)
  else if 'a' ≤ c && c ≤ 'f' then some (c.toNat - 'a'.toNat + 10)
  else if 'A' ≤ c && c ≤ 'F' then some (c.toNat - 'A'.toNat + 10)
  else none

/-- The character of an escape given by `n` hexadecimal digits. -/
def hexEscape? (n : Nat) (cs : List Char) : Option Char := do
  if cs.length < n then none
  else
    let ds ← (cs.take n).mapM hexValue?
    let code := ds.foldl (fun v d => v * 16 + d) 0
    if (0xD800 ≤ code && code ≤ 0xDFFF) || 0x10FFFF < code then none
    else some (Char.ofNat code)

/-- An escape after its backslash: the character and how many characters it took. -/
def escape? : List Char → Option (Char × Nat)
  | [] => none
  | c :: rest =>
      match c with
      | '0' => some (Char.ofNat 0, 1)
      | 'a' => some (Char.ofNat 7, 1)
      | 'b' => some (Char.ofNat 8, 1)
      | 't' => some ('\t', 1)
      | '\t' => some ('\t', 1)
      | 'n' => some ('\n', 1)
      | 'v' => some (Char.ofNat 11, 1)
      | 'f' => some (Char.ofNat 12, 1)
      | 'r' => some ('\r', 1)
      | 'e' => some (Char.ofNat 27, 1)
      | ' ' => some (' ', 1)
      | '"' => some ('"', 1)
      | '/' => some ('/', 1)
      | '\\' => some ('\\', 1)
      | 'N' => some (nextLine, 1)
      | '_' => some (Char.ofNat 0xA0, 1)
      | 'L' => some (lineSeparator, 1)
      | 'P' => some (paragraphSeparator, 1)
      | 'x' => (hexEscape? 2 rest).map (·, 3)
      | 'u' => (hexEscape? 4 rest).map (·, 5)
      | 'U' => (hexEscape? 8 rest).map (·, 9)
      | _ => none

/-- The words of a quoted scalar up to its next gap: their text put backwards before
`acc`, the place behind them, and whether an escaped line break begins the gap. -/
def scanQuotedRun (double : Bool) : Nat → List Char → Cursor → Option (List Char × Cursor × Bool)
  | 0, _, _ => none
  | fuel + 1, acc, c =>
      match c.rest with
      | [] => some (acc, c, false)
      | ch :: rest =>
          if isBlank ch then some (acc, c, false)
          else if !double && ch = '\x27' then
            if rest.head? = some '\x27' then scanQuotedRun double fuel ('\x27' :: acc) (c.skip 2)
            else some (acc, c, false)
          else if double && ch = '"' then some (acc, c, false)
          else if double && ch = '\\' then
            if rest.head?.any isBreak then some (acc, c.skip 2, true)
            else
              match escape? rest with
              | none => none
              | some (e, n) => scanQuotedRun double fuel (e :: acc) (c.skip (n + 1))
          else scanQuotedRun double fuel (ch :: acc) c.advance

/-- A quoted scalar after its opening quote, put backwards before `acc`. -/
def scanQuoted (double : Bool) : Nat → List Char → Cursor → Option Scanned
  | 0, _, _ => none
  | fuel + 1, acc, c =>
      if c.atDocumentMarker || c.rest.isEmpty then none
      else
        match scanQuotedRun double (c.rest.length + 1) acc c with
        | none => none
        | some (acc, c, escaped) =>
            let quote := if double then '"' else '\x27'
            if !escaped && c.peek? = some quote then some ⟨acc.reverse, c.advance, false⟩
            else
              let gap : Gap := if escaped then { first := some [] } else {}
              match Gap.scan none (c.rest.length + 1) gap c with
              | none => none
              | some (gap, c) => scanQuoted double fuel (gap.text.reverse ++ acc) c

/-- What becomes of the breaks at the end of a block. -/
inductive Chomp where
  | strip
  | clip
  | keep
  deriving DecidableEq

/-- The header of a block behind its mark: what to do at its end, and its indentation. -/
def blockHeader? (cs : List Char) : Option (Chomp × Option Nat × Nat) :=
  let chomp? (c : Char) : Option Chomp :=
    if c = '+' then some .keep else if c = '-' then some .strip else none
  let digit? (c : Char) : Option Nat :=
    if c.isDigit then some (c.toNat - '0'.toNat) else none
  match cs with
  | a :: rest =>
      match chomp? a with
      | some k =>
          match rest.head?.bind digit? with
          | some 0 => none
          | some n => some (k, some n, 2)
          | none => some (k, none, 1)
      | none =>
          match digit? a with
          | some 0 => none
          | some n =>
              match rest.head?.bind chomp? with
              | some k => some (k, some n, 2)
              | none => some (.clip, some n, 1)
          | none => some (.clip, none, 0)
  | [] => some (.clip, none, 0)

/-- Passes empty lines before a line of a block, whose indentation is `indent` if it is
known: the breaks, and the largest column seen. -/
def blockBreaks (indent : Option Nat) : Nat → List Char → Nat → Cursor → Option (List Char × Nat × Cursor)
  | 0, _, _, _ => none
  | fuel + 1, breaks, widest, c =>
      let width := match indent with
        | none => (c.rest.takeWhile (· = ' ')).length
        | some n => min (n - c.column) (c.rest.takeWhile (· = ' ')).length
      let c := c.skip width
      let widest := max widest c.column
      if c.peek? = some '\t' && indent.all (c.column < ·) then none
      else
        match c.peek? with
        | some ch =>
            if isBreak ch then blockBreaks indent fuel (breaks ++ [ch]) widest c.advance
            else some (breaks, widest, c)
        | none => some (breaks, widest, c)

/-- The lines of a block from a line on. `lead` is the break before it, `breaks` the
empty lines, and `wasBlank` tells whether the line before began with a blank. -/
def blockLines (folded : Bool) (chomp : Chomp) (indent : Nat) :
    Nat → List Char → List Char → List Char → Bool → Cursor → Option Scanned
  | 0, _, _, _, _, _ => none
  | fuel + 1, acc, lead, breaks, wasBlank, c =>
      if c.column = indent && !c.rest.isEmpty then
        let beginsBlank := c.peek?.any isSpace
        let joined :=
          if folded && lead = ['\n'] && !wasBlank && !beginsBlank then
            if breaks.isEmpty then [' '] else breaks
          else lead ++ breaks
        let (line, c) := c.run fun _ => true
        let acc := acc ++ joined ++ line
        let lead := c.peek?.toList
        match blockBreaks (some indent) (c.rest.length + 1) [] 0 c.advance with
        | none => none
        | some (breaks, _, c) => blockLines folded chomp indent fuel acc lead breaks beginsBlank c
      else
        let tail := match chomp with
          | .strip => []
          | .clip => lead
          | .keep => lead ++ breaks
        some ⟨acc ++ tail, c, true⟩

/-- A block scalar behind its mark, in a collection of indentation `parent`. -/
def scanBlock (folded : Bool) (parent : Int) (c : Cursor) : Option Scanned := do
  let (chomp, given, taken) ← blockHeader? c.rest
  let (_, c) := (c.skip taken).run isSpace
  let (_, c) := if c.peek? = some '#' then c.run fun _ => true else ([], c)
  if !c.atLineEnd then none
  else
    let c := c.advance
    let known := given.map fun n => if 0 ≤ parent then parent.toNat + n else n
    let (breaks, widest, c) ← blockBreaks known (c.rest.length + 1) [] 0 c
    let indent := known.getD (max (max widest (parent + 1).toNat) 1)
    blockLines folded chomp indent (c.rest.length + 2) [] [] breaks false c

end Gateway.Yaml
