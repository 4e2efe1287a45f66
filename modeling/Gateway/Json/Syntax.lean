/-!
# The grammar of JSON

`Document.read?` recognises one JSON document and keeps its numbers as they are
written, its fields in order and with repetitions, and its strings decoded. A string
whose escapes name a lone surrogate is well formed as text but has no value. What a
number or an object means is left to those who read the document.
-/

namespace Gateway.Json

/-- A number as written. -/
structure Numeral where
  negative : Bool
  whole : List Char
  fraction : Option (List Char)
  exponent : Option (Bool × List Char)
  deriving DecidableEq, Repr

/-- A document. A string is `none` when an escape in it names no character. -/
inductive Document where
  | null
  | bool (b : Bool)
  | num (n : Numeral)
  | str (s : Option String)
  | arr (items : List Document)
  | obj (fields : List (Option String × Document))
  deriving Inhabited

def isBlank (c : Char) : Bool :=
  c = ' ' || c = '\n' || c = '\t' || c = '\r'

def skipBlanks (cs : List Char) : List Char :=
  cs.dropWhile isBlank

def expect (word : List Char) (cs : List Char) : Option (List Char) :=
  if word.isPrefixOf cs then some (cs.drop word.length) else none

/-- A number and what follows it; a number has no leading zeros. -/
def numeral? (cs : List Char) : Option (Numeral × List Char) :=
  let (negative, cs) := match cs with
    | '-' :: r => (true, r)
    | r => (false, r)
  let whole := cs.takeWhile Char.isDigit
  let rest := cs.dropWhile Char.isDigit
  if whole.isEmpty || (whole.head? = some '0' && whole.length ≠ 1) then none
  else
    let fraction : Option (Option (List Char) × List Char) :=
      match rest with
      | '.' :: r =>
          let ds := r.takeWhile Char.isDigit
          if ds.isEmpty then none else some (some ds, r.dropWhile Char.isDigit)
      | r => some (none, r)
    match fraction with
    | none => none
    | some (fraction, rest) =>
        match rest with
        | 'e' :: r | 'E' :: r =>
            let (minus, r) := match r with
              | '+' :: r => (false, r)
              | '-' :: r => (true, r)
              | r => (false, r)
            let ds := r.takeWhile Char.isDigit
            if ds.isEmpty then none
            else some (⟨negative, whole, fraction, some (minus, ds)⟩, r.dropWhile Char.isDigit)
        | r => some (⟨negative, whole, fraction, none⟩, r)

def hexValue? (c : Char) : Option Nat :=
  if '0' ≤ c && c ≤ '9' then some (c.toNat - '0'.toNat)
  else if 'a' ≤ c && c ≤ 'f' then some (c.toNat - 'a'.toNat + 10)
  else if 'A' ≤ c && c ≤ 'F' then some (c.toNat - 'A'.toNat + 10)
  else none

def hex4? (a b c d : Char) : Option Nat := do
  let a ← hexValue? a
  let b ← hexValue? b
  let c ← hexValue? c
  let d ← hexValue? d
  pure (((a * 16 + b) * 16 + c) * 16 + d)

/-- One element of a string: a character, an escape without a value, or the end. -/
inductive Piece where
  | char (c : Char)
  | broken
  | finish

/-- Reads one element of a string and tells how many characters it took. A surrogate
escape needs its partner right behind it. -/
def piece? : List Char → Option (Piece × Nat)
  | [] => none
  | '"' :: _ => some (.finish, 1)
  | '\\' :: '"' :: _ => some (.char '"', 2)
  | '\\' :: '\\' :: _ => some (.char '\\', 2)
  | '\\' :: '/' :: _ => some (.char '/', 2)
  | '\\' :: 'b' :: _ => some (.char (Char.ofNat 8), 2)
  | '\\' :: 'f' :: _ => some (.char (Char.ofNat 12), 2)
  | '\\' :: 'n' :: _ => some (.char '\n', 2)
  | '\\' :: 'r' :: _ => some (.char '\r', 2)
  | '\\' :: 't' :: _ => some (.char '\t', 2)
  | '\\' :: 'u' :: a :: b :: c :: d :: rest =>
      match hex4? a b c d with
      | none => none
      | some n =>
          if 0xD800 ≤ n && n < 0xDC00 then
            match rest with
            | '\\' :: 'u' :: e :: f :: g :: h :: _ =>
                match hex4? e f g h with
                | none => some (.broken, 6)
                | some m =>
                    if 0xDC00 ≤ m && m < 0xE000 then
                      some (.char (Char.ofNat (0x10000 + (n - 0xD800) * 0x400 + (m - 0xDC00))), 12)
                    else some (.broken, 6)
            | _ => some (.broken, 6)
          else if 0xDC00 ≤ n && n < 0xE000 then some (.broken, 6)
          else some (.char (Char.ofNat n), 6)
  | '\\' :: _ => none
  | c :: _ => if c.toNat < 32 then none else some (.char c, 1)

/-- The rest of a string after its opening quote. -/
def string? : Nat → List Char → Option (List Char) → Option (Option String × List Char)
  | 0, _, _ => none
  | fuel + 1, cs, acc =>
      match piece? cs with
      | none => none
      | some (.finish, n) => some (acc.map (fun l => String.ofList l.reverse), cs.drop n)
      | some (.broken, n) => string? fuel (cs.drop n) none
      | some (.char c, n) => string? fuel (cs.drop n) (acc.map (c :: ·))

mutual

/-- One value; blanks before it are skipped. The fuel bounds the number of calls. -/
def value? : Nat → List Char → Option (Document × List Char)
  | 0, _ => none
  | fuel + 1, cs =>
      match skipBlanks cs with
      | '"' :: r => (string? (r.length + 1) r (some [])).map fun (s, r) => (.str s, r)
      | '[' :: r =>
          match skipBlanks r with
          | ']' :: r => some (.arr [], r)
          | r => (items? fuel r).map fun (vs, r) => (.arr vs, r)
      | '\x7b' :: r =>
          match skipBlanks r with
          | '\x7d' :: r => some (.obj [], r)
          | r => (fields? fuel r).map fun (fs, r) => (.obj fs, r)
      | 't' :: r => (expect ['r', 'u', 'e'] r).map fun r => (.bool true, r)
      | 'f' :: r => (expect ['a', 'l', 's', 'e'] r).map fun r => (.bool false, r)
      | 'n' :: r => (expect ['u', 'l', 'l'] r).map fun r => (.null, r)
      | r => (numeral? r).map fun (n, r) => (.num n, r)

def items? : Nat → List Char → Option (List Document × List Char)
  | 0, _ => none
  | fuel + 1, cs =>
      match value? fuel cs with
      | none => none
      | some (v, r) =>
          match skipBlanks r with
          | ']' :: r => some ([v], r)
          | ',' :: r => (items? fuel r).map fun (vs, r) => (v :: vs, r)
          | _ => none

def fields? : Nat → List Char → Option (List (Option String × Document) × List Char)
  | 0, _ => none
  | fuel + 1, cs =>
      match skipBlanks cs with
      | '"' :: r =>
          match string? (r.length + 1) r (some []) with
          | none => none
          | some (name, r) =>
              match skipBlanks r with
              | ':' :: r =>
                  match value? fuel r with
                  | none => none
                  | some (v, r) =>
                      match skipBlanks r with
                      | '\x7d' :: r => some ([(name, v)], r)
                      | ',' :: r => (fields? fuel r).map fun (fs, r) => ((name, v) :: fs, r)
                      | _ => none
              | _ => none
      | _ => none

end

/-- The whole text as one document, with blanks around it. -/
def Document.read? (cs : List Char) : Option Document :=
  match value? (2 * cs.length + 2) cs with
  | some (d, r) => if (skipBlanks r).isEmpty then some d else none
  | none => none

end Gateway.Json
