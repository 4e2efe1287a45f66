/-!
# JSON values

A number is an integer of 64 bits, signed or unsigned, or a floating point number. The
fields of an object are kept in the order of their names, each name once.
-/

namespace Gateway

inductive Json where
  | null
  | bool (b : Bool)
  | int (n : Int)
  | real (x : Float)
  | str (s : String)
  | arr (items : List Json)
  | obj (fields : List (String × Json))
  deriving Inhabited

namespace Json

/-- Puts a field in its place; a field of the same name is replaced. -/
def insertField (name : String) (value : Json) : List (String × Json) → List (String × Json)
  | [] => [(name, value)]
  | (n, v) :: rest =>
      if name = n then (name, value) :: rest
      else if name < n then (name, value) :: (n, v) :: rest
      else (n, v) :: insertField name value rest

/-- An object from fields in any order; of equal names the last one counts. -/
def ofFields (fields : List (String × Json)) : Json :=
  .obj (fields.foldl (fun acc f => insertField f.1 f.2 acc) [])

def field? (name : String) : Json → Option Json
  | .obj fields => (fields.find? (·.1 = name)).map (·.2)
  | _ => none

def asString? : Json → Option String
  | .str s => some s
  | _ => none

def ofNat (n : Nat) : Json := .int n

def ofOption (f : α → Json) : Option α → Json
  | some a => f a
  | none => .null

end Json

end Gateway
