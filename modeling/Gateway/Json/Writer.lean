import Gateway.Decimal.Shortest
import Gateway.Json.Basic

/-!
# Writing JSON

The compact form: no blanks, fields in their order, every character as itself except
quotes, backslashes and control characters. Floating point numbers have the fewest
digits that read back; they are written positionally from `1e-5` up to `1e16`.
-/

namespace Gateway.Json

def hexDigit (n : Nat) : Char :=
  (Nat.toDigits 16 (n % 16)).headD '0'

def escapeChar (c : Char) : List Char :=
  if c = '"' then ['\\', '"']
  else if c = '\\' then ['\\', '\\']
  else if c = '\n' then ['\\', 'n']
  else if c = '\r' then ['\\', 'r']
  else if c = '\t' then ['\\', 't']
  else if c.toNat = 8 then ['\\', 'b']
  else if c.toNat = 12 then ['\\', 'f']
  else if c.toNat < 32 then ['\\', 'u', '0', '0', hexDigit (c.toNat / 16), hexDigit c.toNat]
  else [c]

def quote (s : String) : String :=
  String.ofList ('"' :: s.toList.flatMap escapeChar ++ ['"'])

/-- Exponents of the first digit that are written positionally. -/
def positionalFrom : Int := -5
def positionalBelow : Int := 16

def writeReal (x : Float) : String :=
  match Dyadic.ofFloat? x with
  | none => "null"
  | some d =>
      let ds := Shortest.trim 20 (Shortest.digits d)
      let e := ds.leading
      Shortest.signed d.negative <|
        if positionalFrom ≤ e && e < positionalBelow then Shortest.positional ".0" ds
        else Shortest.scientific ds

mutual

def write : Json → String
  | .null => "null"
  | .bool b => if b then "true" else "false"
  | .int n => toString n
  | .real x => writeReal x
  | .str s => quote s
  | .arr items => "[" ++ writeItems items ++ "]"
  | .obj fields => "\x7b" ++ writeFields fields ++ "\x7d"

def writeItems : List Json → String
  | [] => ""
  | [v] => write v
  | v :: rest => write v ++ "," ++ writeItems rest

def writeFields : List (String × Json) → String
  | [] => ""
  | [(n, v)] => quote n ++ ":" ++ write v
  | (n, v) :: rest => quote n ++ ":" ++ write v ++ "," ++ writeFields rest

end

end Gateway.Json
