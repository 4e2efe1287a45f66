import Gateway.Json.Reader
import Gateway.Settings.Basic

/-!
# Settings in JSON

In JSON a leaf has one reading, except that an integer is also a real number. An object
of one member that is null stands for the name of that member.
-/

namespace Gateway.Settings

def nullLeaf : Leaf := { null? := some true }

def realLeaf (x : Float) : Leaf := { real? := some x }

def intLeaf (n : Int) : Leaf :=
  { nat? := if 0 ≤ n then some n.toNat else none, real? := some (Float.ofInt n) }

def textLeaf (s : Option String) : Leaf := { text? := s, word? := s }

/-- A number; one that is out of range has no reading. -/
def numeralLeaf (n : Json.Numeral) : Leaf :=
  match n.value? with
  | some (.int i) => intLeaf i
  | some (.real x) => realLeaf x
  | _ => {}

instance : Settings Json.Document where
  view
    | .null => .leaf nullLeaf
    | .bool b => .leaf { bool? := some b }
    | .num n => .leaf (numeralLeaf n)
    | .str s => .leaf (textLeaf s)
    | .arr items => .list items
    | .obj fields =>
        .members fields <|
          match fields with
          | [(name, .null)] => name
          | _ => none

instance : Settings Json where
  view
    | .null => .leaf nullLeaf
    | .bool b => .leaf { bool? := some b }
    | .int n => .leaf (intLeaf n)
    | .real x => .leaf (realLeaf x)
    | .str s => .leaf (textLeaf (some s))
    | .arr items => .list items
    | .obj fields =>
        .members (fields.map fun (name, v) => (some name, v)) <|
          match fields with
          | [(name, .null)] => some name
          | _ => none

end Gateway.Settings
