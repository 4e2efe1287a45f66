/-!
# Character tables

A table is a text of rows separated by blanks; a row is a list of hexadecimal numbers
separated by commas. The rows stand in the order of their first numbers, which are the
characters that they begin with.
-/

namespace Gateway.Rows

def hexDigitValue (c : Char) : Nat :=
  if c.isDigit then c.toNat - '0'.toNat else c.toNat - 'a'.toNat + 10

/-- What has been read of a table: its complete rows, the row begun (backwards) and the
number begun. -/
structure Progress where
  rows : Array (List Nat)
  row : List Nat
  number : Option Nat

namespace Progress

def endNumber (p : Progress) : Progress :=
  match p.number with
  | some n => { p with row := n :: p.row, number := none }
  | none => p

def endRow (p : Progress) : Progress :=
  let p := p.endNumber
  if p.row.isEmpty then p else { p with rows := p.rows.push p.row.reverse, row := [] }

def step (p : Progress) (c : Char) : Progress :=
  if c = ',' then p.endNumber
  else if c = ' ' || c = '\n' then p.endRow
  else { p with number := some (p.number.getD 0 * 16 + hexDigitValue c) }

end Progress

def parse (text : String) : Array (List Nat) :=
  (text.foldl Progress.step ⟨#[], [], none⟩).endRow.rows

/-- Among the rows from `lo` to `hi`, the index behind the last one that begins at or
before `n`, found by halving the range at most `fuel` times. -/
def behind (rows : Array (List Nat)) (n : Nat) : Nat → Nat → Nat → Nat
  | 0, lo, _ => lo
  | fuel + 1, lo, hi =>
      if lo < hi then
        let mid := (lo + hi) / 2
        if ((rows[mid]?.bind List.head?).getD 0) ≤ n then behind rows n fuel (mid + 1) hi
        else behind rows n fuel lo mid
      else lo

/-- The last row that begins at or before `n`. -/
def last? (rows : Array (List Nat)) (n : Nat) : Option (List Nat) :=
  match behind rows n (rows.size + 1) 0 rows.size with
  | 0 => none
  | i + 1 => rows[i]?

/-- Rows are ranges `first, last` or single numbers. -/
def covers (rows : Array (List Nat)) (n : Nat) : Bool :=
  match last? rows n with
  | some [first] => first = n
  | some (_ :: last :: _) => n ≤ last
  | _ => false

/-- Rows are `first, last, class`. -/
def classOf (rows : Array (List Nat)) (n : Nat) : Option Nat :=
  match last? rows n with
  | some [_, last, k] => if n ≤ last then some k else none
  | _ => none

end Gateway.Rows
