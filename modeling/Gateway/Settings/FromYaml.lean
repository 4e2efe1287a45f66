import Gateway.Settings.Basic
import Gateway.Yaml.Node

/-!
# Settings in YAML

A plain scalar is read as what is asked for: any scalar is a text, and some plain ones
are also nothing, a truth value or a number. A tag with an exclamation mark in front of
nothing is a word.
-/

namespace Gateway.Settings

open Yaml

def standardTag (name : String) : List Char :=
  ("tag:yaml.org,2002:" ++ name).toList

/-- Whether a scalar may be read as something other than a text: a plain one, or a
literal one with the tag for it. -/
def isReadable (tagName : String) (style : Style) (tag : Option (List Char)) : Bool :=
  style = .plain || (style = .literal && tag = some (standardTag tagName))

def isNullWord (text : List Char) : Bool :=
  ["null", "Null", "NULL", "~"].contains (String.ofList text)

/-- Whether a scalar is nothing. Only null may be tagged as null. -/
def scalarNull? (style : Style) (tag : Option (List Char)) (text : List Char) : Option Bool :=
  if style ≠ .plain then some false
  else
    match tag with
    | some t =>
        if t = standardTag "null" then (if isNullWord text then some true else none) else some false
    | none => some (text.isEmpty || isNullWord text)

def scalarBool? (text : List Char) : Option Bool :=
  let word := String.ofList text
  if ["true", "True", "TRUE"].contains word then some true
  else if ["false", "False", "FALSE"].contains word then some false
  else none

def startsSigned (cs : List Char) : Bool :=
  cs.head?.any fun c => c = '+' || c = '-'

def withoutPlus : List Char → List Char
  | '+' :: rest => rest
  | cs => cs

/-- Digits of a base, at least one. -/
def digits? (base : Nat) (cs : List Char) : Option Nat := do
  if cs.isEmpty then none
  else
    let ds ← cs.mapM fun c => (hexValue? c).filter (· < base)
    some (ds.foldl (fun n d => n * base + d) 0)

def wordLimit : Nat := Nat.pow 2 64

def word64? (base : Nat) (cs : List Char) : Option Nat :=
  (digits? base cs).filter (· < wordLimit)

/-- Digits behind a zero are no number. -/
def hasLeadingZero (cs : List Char) : Bool :=
  let cs := if startsSigned cs then cs.tail else cs
  1 < cs.length && cs.head? = some '0' && cs.tail.all Char.isDigit

/-- A number with a mark for its base; a second sign makes it none. -/
def marked? (mark : Char) (base : Nat) : List Char → Option (Option Nat)
  | '0' :: m :: rest =>
      if m ≠ mark then none
      else if startsSigned rest then some none
      else (word64? base rest).map some
  | _ => none

/-- A natural number of 64 bits in decimal, or behind `0x`, `0o` or `0b`. -/
def scalarNat? (text : List Char) : Option Nat :=
  let cs := withoutPlus text
  match (marked? 'x' 16 cs).orElse fun _ =>
      (marked? 'o' 8 cs).orElse fun _ => marked? 'b' 2 cs with
  | some n => n
  | none =>
      if startsSigned cs || hasLeadingZero text then none else word64? 10 cs

/-- A finite decimal: digits with a point, and an exponent. -/
def decimal? (cs : List Char) : Option Float := do
  let (negative, cs) := match cs with
    | '-' :: rest => (true, rest)
    | cs => (false, cs)
  let whole := cs.takeWhile Char.isDigit
  let rest := cs.dropWhile Char.isDigit
  let (fraction, rest) := match rest with
    | '.' :: r => (r.takeWhile Char.isDigit, r.dropWhile Char.isDigit)
    | r => ([], r)
  let (minus, power) ← match rest with
    | [] => some (false, 0)
    | e :: r =>
        if e = 'e' || e = 'E' then
          let minus := r.head? = some '-'
          let r := if startsSigned r then r.tail else r
          if r.isEmpty || !r.all Char.isDigit then none
          else some (minus, r.foldl (fun n c => n * 10 + (c.toNat - '0'.toNat)) 0)
        else none
  if whole.isEmpty && fraction.isEmpty then none
  else
    let ds := (whole ++ fraction).dropWhile (· = '0')
    let m := ds.foldl (fun n c => n * 10 + (c.toNat - '0'.toNat)) 0
    let e : Int := (if minus then -(power : Int) else power) - fraction.length
    let magnitude : Option Float :=
      if m = 0 || ds.length + e < -330 then some 0.0
      else if 310 < ds.length + e then none
      else some (Float.ofScientific m (e < 0) e.natAbs)
    match magnitude with
    | some x => if x.isInf then none else some (if negative then -x else x)
    | none => none

/-- A real number, an infinity, or what is no number. -/
def scalarReal? (text : List Char) : Option Float :=
  let cs := withoutPlus text
  let word := String.ofList cs
  if text.head? = some '+' && startsSigned cs then none
  else if [".inf", ".Inf", ".INF"].contains word then some (1.0 / 0.0)
  else if ["-.inf", "-.Inf", "-.INF"].contains (String.ofList text) then some (-1.0 / 0.0)
  else if [".nan", ".NaN", ".NAN"].contains (String.ofList text) then some (0.0 / 0.0)
  else decimal? cs

/-- A scalar as a word: its text, or a tag with an exclamation mark in front of nothing. -/
def scalarWord? (style : Style) (tag : Option (List Char)) (text : List Char) : Option String :=
  match tag with
  | some ('!' :: name) =>
      if style = .plain && (text.isEmpty || isNullWord text) then some (String.ofList name) else none
  | _ => some (String.ofList text)

def scalarLeaf (style : Style) (tag : Option (List Char)) (text : List Char) : Leaf where
  null? := scalarNull? style tag text
  bool? := if isReadable "bool" style tag then scalarBool? text else none
  nat? := if isReadable "int" style tag then scalarNat? text else none
  real? := if isReadable "float" style tag then scalarReal? text else none
  text? := some (String.ofList text)
  word? := scalarWord? style tag text
  isEmpty := style = .plain && text.isEmpty

/-- A node with the anchors of its document. -/
structure Place where
  anchors : Anchors
  node : Node

namespace Place

/-- The node that an alias stands for. -/
def resolved (p : Place) : Node :=
  match p.node with
  | .alias number => (p.anchors.node? number).getD p.node
  | n => n

def text? (p : Place) : Option String :=
  match p.resolved with
  | .scalar _ _ text => some (String.ofList text)
  | _ => none

instance : Settings Place where
  view p :=
    match p.resolved with
    | .scalar style tag text => .leaf (scalarLeaf style tag text)
    | .seq _ items => .list (items.map fun n => { p with node := n })
    | .map _ entries =>
        .members (entries.map fun (k, v) => ({ p with node := k }.text?, { p with node := v })) none
    | .alias _ => .leaf {}

/-- The settings in a YAML text. -/
def read? (cs : List Char) : Option Place :=
  (Yaml.read? cs).map fun d => ⟨d.anchors, d.root⟩

end Place

end Gateway.Settings
