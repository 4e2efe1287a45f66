import Gateway.Yaml.Token

/-!
# Documents of YAML

The tokens of a text make a tree of scalars, sequences and mappings. A node may carry a
tag and an anchor; an alias stands for a node with an anchor. A text has to hold one
document, and what a node means is left to those who read it.
-/

namespace Gateway.Yaml

inductive Node where
  | scalar (style : Style) (tag : Option (List Char)) (text : List Char)
  | seq (tag : Option (List Char)) (items : List Node)
  | map (tag : Option (List Char)) (entries : List (Node × Node))
  /-- The node whose anchor has this number. -/
  | alias (number : Nat)
  deriving Inhabited

namespace Node

/-- What stands where a node is left out. -/
def missing : Node := .scalar .plain none []

end Node

/-- The anchors of a document. An anchor is numbered by how many other names there were
before it, and of two nodes with one number the later counts. -/
structure Anchors where
  /-- Each name with the number of its latest anchor. -/
  names : List (List Char × Nat) := []
  /-- The place of the node for each number, the latest first. -/
  places : List (Nat × Nat) := []
  /-- How many nodes have anchors. -/
  count : Nat := 0
  nodes : List (Nat × Node) := []

namespace Anchors

def number? (name : List Char) (a : Anchors) : Option Nat :=
  (a.names.find? (·.1 = name)).map (·.2)

/-- Notes that a node with an anchor begins, and gives it a place. -/
def enter (name : List Char) (a : Anchors) : Nat × Anchors :=
  let number := a.names.length
  let names := (name, number) :: a.names.filter (·.1 ≠ name)
  (a.count, { a with names, places := (number, a.count) :: a.places, count := a.count + 1 })

def leave (place : Nat) (n : Node) (a : Anchors) : Anchors :=
  { a with nodes := (place, n) :: a.nodes }

def node? (number : Nat) (a : Anchors) : Option Node := do
  let (_, place) ← a.places.find? (·.1 = number)
  let (_, n) ← a.nodes.find? (·.1 = place)
  some n

end Anchors

/-- What is left of a text, with the tag handles and anchors so far. -/
structure Reader where
  tokens : List Token
  handles : List (List Char × List Char)
  anchors : Anchors := {}

/-- The tag and the anchor in front of a node. -/
structure Properties where
  tag : Option (List Char) := none
  anchor : Option (List Char) := none

namespace Reader

def skip (r : Reader) : Reader := { r with tokens := r.tokens.tail }

def resolveTag (r : Reader) (handle suffix : List Char) : Option (List Char) :=
  if handle.isEmpty then some suffix
  else (r.handles.find? (·.1 = handle)).map (·.2 ++ suffix)

/-- A tag and an anchor, in any order. -/
def properties? (r : Reader) : Option (Properties × Reader) :=
  match r.tokens with
  | .anchor name :: .tag handle suffix :: _ | .tag handle suffix :: .anchor name :: _ => do
      let tag ← r.resolveTag handle suffix
      some (⟨some tag, some name⟩, r.skip.skip)
  | .anchor name :: _ => some (⟨none, some name⟩, r.skip)
  | .tag handle suffix :: _ => do
      let tag ← r.resolveTag handle suffix
      some (⟨some tag, none⟩, r.skip)
  | _ => some ({}, r)

/-- Whether the next token is one of these, or there is none. -/
def isAt (ts : List Token) (r : Reader) : Bool :=
  match r.tokens.head? with
  | some t => ts.contains t
  | none => true

mutual

/-- A node. Block collections are allowed where `block` is set, and sequences without an
indentation of their own where `indentless` is. -/
def node? : Nat → (block indentless : Bool) → Reader → Option (Node × Reader)
  | 0, _, _, _ => none
  | fuel + 1, block, indentless, r =>
      match r.tokens with
      | .alias name :: _ => (r.anchors.number? name).map fun n => (.alias n, r.skip)
      | _ =>
          match r.properties? with
          | none => none
          | some (p, r) =>
              match p.anchor with
              | none => content? fuel block indentless p r
              | some name =>
                  let (place, anchors) := r.anchors.enter name
                  match content? fuel block indentless p { r with anchors } with
                  | none => none
                  | some (n, r) => some (n, { r with anchors := r.anchors.leave place n })

/-- A node behind its properties. -/
def content? : Nat → (block indentless : Bool) → Properties → Reader → Option (Node × Reader)
  | 0, _, _, _, _ => none
  | fuel + 1, block, indentless, p, r =>
      match r.tokens with
      | .scalar style text :: _ =>
          some (.scalar style (p.tag.filter (· ≠ ['!'])) text, r.skip)
      | .flowSequence :: _ =>
          (flowItems? fuel true r.skip).map fun (ns, r) => (.seq p.tag ns, r)
      | .flowMapping :: _ =>
          (flowEntries? fuel true r.skip).map fun (es, r) => (.map p.tag es, r)
      | t :: _ =>
          if indentless && t = .blockEntry then
            (looseItems? fuel r).map fun (ns, r) => (.seq p.tag ns, r)
          else if block && t = .blockSequence then
            (blockItems? fuel r.skip).map fun (ns, r) => (.seq p.tag ns, r)
          else if block && t = .blockMapping then
            (blockEntries? fuel r.skip).map fun (es, r) => (.map p.tag es, r)
          else if p.tag.isSome || p.anchor.isSome then some (.scalar .plain p.tag [], r)
          else none
      | [] =>
          if p.tag.isSome || p.anchor.isSome then some (.scalar .plain p.tag [], r) else none

/-- The entries of a block sequence and its end. -/
def blockItems? : Nat → Reader → Option (List Node × Reader)
  | 0, _ => none
  | fuel + 1, r =>
      match r.tokens with
      | .blockEnd :: _ => some ([], r.skip)
      | .blockEntry :: _ =>
          match orMissing? fuel true false [.blockEntry, .blockEnd] r.skip with
          | none => none
          | some (n, r) => (blockItems? fuel r).map fun (ns, r) => (n :: ns, r)
      | _ => none

/-- The entries of a sequence that has the indentation of the mapping around it. -/
def looseItems? : Nat → Reader → Option (List Node × Reader)
  | 0, _ => none
  | fuel + 1, r =>
      match r.tokens with
      | .blockEntry :: _ =>
          match orMissing? fuel true false [.blockEntry, .key, .value, .blockEnd] r.skip with
          | none => none
          | some (n, r) => (looseItems? fuel r).map fun (ns, r) => (n :: ns, r)
      | _ => some ([], r)

/-- The entries of a block mapping and its end. -/
def blockEntries? : Nat → Reader → Option (List (Node × Node) × Reader)
  | 0, _ => none
  | fuel + 1, r =>
      match r.tokens with
      | .blockEnd :: _ => some ([], r.skip)
      | .key :: _ =>
          match orMissing? fuel true true [.key, .value, .blockEnd] r.skip with
          | none => none
          | some (k, r) =>
              match value? fuel true true [.key, .value, .blockEnd] r with
              | none => none
              | some (v, r) => (blockEntries? fuel r).map fun (es, r) => ((k, v) :: es, r)
      | _ => none

/-- The items of a sequence in brackets and its end. A key makes a mapping of one entry. -/
def flowItems? : Nat → (first : Bool) → Reader → Option (List Node × Reader)
  | 0, _, _ => none
  | fuel + 1, first, r =>
      match r.tokens, first with
      | .flowSequenceEnd :: _, _ => some ([], r.skip)
      | .flowEntry :: .flowSequenceEnd :: _, false => some ([], r.skip.skip)
      | .flowEntry :: .key :: _, false => pairItem? fuel r.skip.skip
      | .flowEntry :: _, false => flowItem? fuel r.skip
      | .key :: _, true => pairItem? fuel r.skip
      | _, true => flowItem? fuel r
      | _, false => none

def flowItem? : Nat → Reader → Option (List Node × Reader)
  | 0, _ => none
  | fuel + 1, r =>
      match node? fuel false false r with
      | none => none
      | some (n, r) => (flowItems? fuel false r).map fun (ns, r) => (n :: ns, r)

/-- A mapping of one entry behind its key mark. A mark or bracket in place of the key is
passed over. -/
def pairItem? : Nat → Reader → Option (List Node × Reader)
  | 0, _ => none
  | fuel + 1, r =>
      let key := if r.isAt [.value, .flowEntry, .flowSequenceEnd] then some (Node.missing, r.skip)
        else node? fuel false false r
      match key with
      | none => none
      | some (k, r) =>
          match value? fuel false false [.flowEntry, .flowSequenceEnd] r with
          | none => none
          | some (v, r) =>
              (flowItems? fuel false r).map fun (ns, r) => (.map none [(k, v)] :: ns, r)

/-- The entries of a mapping in braces and its end. -/
def flowEntries? : Nat → (first : Bool) → Reader → Option (List (Node × Node) × Reader)
  | 0, _, _ => none
  | fuel + 1, first, r =>
      match r.tokens, first with
      | .flowMappingEnd :: _, _ => some ([], r.skip)
      | .flowEntry :: .flowMappingEnd :: _, false => some ([], r.skip.skip)
      | .flowEntry :: _, false => flowEntryAt? fuel r.skip
      | _, true => flowEntryAt? fuel r
      | _, false => none

def flowEntryAt? : Nat → Reader → Option (List (Node × Node) × Reader)
  | 0, _ => none
  | fuel + 1, r =>
      let entry :=
        match r.tokens with
        | .key :: _ =>
            match orMissing? fuel false false [.value, .flowEntry, .flowMappingEnd] r.skip with
            | none => none
            | some (k, r) =>
                (value? fuel false false [.flowEntry, .flowMappingEnd] r).map fun (v, r) => ((k, v), r)
        | _ => (node? fuel false false r).map fun (k, r) => ((k, Node.missing), r)
      match entry with
      | none => none
      | some (e, r) => (flowEntries? fuel false r).map fun (es, r) => (e :: es, r)

/-- A value if there is a value mark. -/
def value? : Nat → (block indentless : Bool) → List Token → Reader → Option (Node × Reader)
  | 0, _, _, _, _ => none
  | fuel + 1, block, indentless, ends, r =>
      match r.tokens with
      | .value :: _ => orMissing? fuel block indentless ends r.skip
      | _ => some (.missing, r)

/-- A node, or nothing before one of the tokens that end it. -/
def orMissing? : Nat → (block indentless : Bool) → List Token → Reader → Option (Node × Reader)
  | 0, _, _, _, _ => none
  | fuel + 1, block, indentless, ends, r =>
      if r.tokens.head?.any ends.contains then some (.missing, r)
      else node? fuel block indentless r

end

end Reader

/-- A document: its tree, and the nodes that aliases stand for. -/
structure Document where
  root : Node
  anchors : Anchors

namespace Document

def standardHandles : List (List Char × List Char) :=
  [(['!'], ['!']), (['!', '!'], "tag:yaml.org,2002:".toList)]

/-- The directives in front of a document: the handles that they set up, and the tokens
behind them. Versions are 1.1 and 1.2. -/
def directives? (versioned : Bool) (handles : List (List Char × List Char)) :
    List Token → Option (List (List Char × List Char) × List Token)
  | .version major minor :: rest =>
      if versioned || major ≠ 1 || (minor ≠ 1 && minor ≠ 2) then none
      else directives? true handles rest
  | .tagHandle handle start :: rest =>
      if handles.any (·.1 = handle) then none
      else directives? versioned (handles ++ [(handle, start)]) rest
  | rest => some (handles, rest)

/-- Whether a document has no content because it ends here. -/
def endsAt : List Token → Bool
  | .version .. :: _ => true
  | .tagHandle .. :: _ => true
  | .directivesEnd :: _ => true
  | .documentEnd :: _ => true
  | [] => true
  | _ => false

/-- The one document that the tokens make. -/
def ofTokens? (ts : List Token) : Option Document := do
  let fuel := 4 * ts.length + 8
  let (handles, rest) ← directives? false [] ts
  let explicit := rest.length ≠ ts.length || rest.head? = some .directivesEnd
  let rest ← if explicit then
      match rest with
      | .directivesEnd :: rest => some rest
      | _ => none
    else some rest
  let r : Reader := { tokens := rest, handles := handles ++ standardHandles }
  let (root, r) ← if explicit && endsAt rest then some (Node.missing, r)
    else r.node? fuel true false
  if r.tokens.all (· = .documentEnd) then some ⟨root, r.anchors⟩ else none

end Document

/-- The document that a text holds. -/
def read? (cs : List Char) : Option Document :=
  (tokens? cs).bind Document.ofTokens?

end Gateway.Yaml
