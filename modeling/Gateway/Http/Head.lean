import Gateway.Error.Basic
import Gateway.Http.Headers

/-!
# Heads of responses

The first part of a response on a connection: the status line and the header lines, up
to an empty line. Lines end in a line feed with or without a carriage return before it.
A head is refused at its first octet that cannot be right, even when it is not complete.
-/

namespace Gateway

structure ResponseHead where
  /-- Whether the response is of version 1.1 rather than 1.0. -/
  modern : Bool
  status : Status
  headers : Headers
  deriving DecidableEq, Repr

namespace ResponseHead

/-- Why reading stops: the octets do not suffice, or they are wrong. -/
inductive Stop where
  | partly
  | fault (e : TransportError)
  deriving DecidableEq, Repr

def cr : UInt8 := 13
def lf : UInt8 := 10
def blank : UInt8 := 32
def tab : UInt8 := 9
def colon : UInt8 := 58

/-- The octets of a word that must stand here. -/
def word (e : TransportError) : Bytes → Bytes → Except Stop Bytes
  | [], rest => .ok rest
  | _ :: _, [] => .error .partly
  | w :: ws, b :: rest => if w = b then word e ws rest else .error (.fault e)

/-- The end of a line, of which the carriage return has been read. -/
def lineFeed (e : TransportError) (s : Bytes) : Except Stop Bytes :=
  word e [lf] s

def skipEmptyLines : Bytes → Except Stop Bytes
  | [] => .error .partly
  | [b] => if b = lf || b = cr then .error .partly else .ok [b]
  | a :: b :: rest =>
      if a = lf then skipEmptyLines (b :: rest)
      else if a = cr then
        if b = lf then skipEmptyLines rest else .error (.fault .header)
      else .ok (a :: b :: rest)

def digit? (b : UInt8) : Option Nat :=
  if 48 ≤ b && b ≤ 57 then some (b.toNat - 48) else none

def version (s : Bytes) : Except Stop (Bool × Bytes) := do
  let s ← word .version (Utf8.encode "HTTP/1.") s
  match s with
  | [] => .error .partly
  | b :: rest =>
      if b = 48 then .ok (false, rest)
      else if b = 49 then .ok (true, rest)
      else .error (.fault .version)

/-- A number of `n` digits. -/
def digits (e : TransportError) : Nat → Nat → Bytes → Except Stop (Nat × Bytes)
  | 0, acc, s => .ok (acc, s)
  | _ + 1, _, [] => .error .partly
  | n + 1, acc, b :: rest =>
      match digit? b with
      | some d => digits e n (acc * 10 + d) rest
      | none => .error (.fault e)

def isTextOctet (b : UInt8) : Bool :=
  b = tab || (32 ≤ b && b ≠ 127)

/-- Text up to the end of the line. -/
def line (e : TransportError) (acc : Bytes) : Bytes → Except Stop (Bytes × Bytes)
  | [] => .error .partly
  | b :: rest =>
      if b = lf then .ok (acc.reverse, rest)
      else if b = cr then (lineFeed e rest).map (acc.reverse, ·)
      else if isTextOctet b then line e (b :: acc) rest
      else .error (.fault e)

/-- The reason phrase, which may be left out. -/
def reason : Bytes → Except Stop (Bytes × Bytes)
  | [] => .error .partly
  | b :: rest =>
      if b = blank then line .status [] rest
      else if b = cr then (lineFeed .status rest).map ([], ·)
      else if b = lf then .ok ([], rest)
      else .error (.fault .status)

def fieldName (acc : List Char) : Bytes → Except Stop (FieldName × Bytes)
  | [] => .error .partly
  | b :: rest =>
      let c := Char.ofNat b.toNat
      if b = colon && !acc.isEmpty then
        match FieldName.ofChars? acc.reverse with
        | some n => .ok (n, rest)
        | none => .error (.fault .tooLarge)
      else if b < 128 && Token.isTokenChar c then fieldName (c :: acc) rest
      else .error (.fault .header)

def isBlankOctet (b : UInt8) : Bool := b = blank || b = tab

/-- The value of a field without blanks around it. -/
def fieldValue (s : Bytes) : Except Stop (Bytes × Bytes) := do
  let (v, rest) ← line .header [] (s.dropWhile isBlankOctet)
  pure ((v.reverse.dropWhile isBlankOctet).reverse, rest)

def maxFields : Nat := 100

/-- Header lines up to the empty one; there is room for `room` of them. -/
def fields (h : Headers) : Nat → Bytes → Except Stop (Headers × Bytes)
  | _, [] => .error .partly
  | room, b :: rest =>
      if b = cr then (lineFeed .header rest).map (h, ·)
      else if b = lf then .ok (h, rest)
      else
        match room with
        | 0 => .error (.fault .tooLarge)
        | room + 1 => do
            let (n, rest) ← fieldName [] (b :: rest)
            let (v, rest) ← fieldValue rest
            fields (h.append n v) room rest

/-- A head in front of `s` and what follows it. -/
def read (s : Bytes) : Except Stop (ResponseHead × Bytes) := do
  let s ← skipEmptyLines s
  let (modern, s) ← version s
  let s ← word .version [blank] s
  let (code, s) ← digits .status 3 0 s
  let (_, s) ← reason s
  let (headers, s) ← fields .empty maxFields s
  match Status.ofNat? code with
  | some status => pure (⟨modern, status, headers⟩, s)
  | none => .error (.fault .status)

end ResponseHead

end Gateway
