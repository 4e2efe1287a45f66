import Gateway.Http.Head
import Gateway.Request
import Gateway.Response

/-!
# Where bodies of responses end

A response has no body, a body of stated length, a body in chunks, or one that lasts
until the connection closes. Informational responses come before the one that counts.
-/

namespace Gateway

inductive Framing where
  | none
  | length (n : Nat)
  | chunked
  | untilClose
  deriving DecidableEq, Repr

namespace Framing

/-- A decimal number of 64 bits. -/
def number? (cs : List Char) : Option Nat :=
  let n := cs.foldl (fun n c => n * 10 + (c.toNat - '0'.toNat)) 0
  if cs.isEmpty || !cs.all Char.isDigit || Nat.pow 2 64 ≤ n then Option.none else some n

def trimBlanks (cs : List Char) : List Char :=
  let isBlank (c : Char) : Bool := c = ' ' || c = '\t'
  ((cs.dropWhile isBlank).reverse.dropWhile isBlank).reverse

/-- All numbers in the content-length lines, if they are numbers. -/
def lengths? (lines : List Bytes) : Option (List Nat) := do
  let texts ← lines.mapM FieldValue.visible?
  (texts.flatMap fun cs => (cs.splitOn ',').map trimBlanks).mapM number?

/-- The stated length, which has to be one number however often it is stated. -/
def statedLength? (h : Headers) : Option Nat :=
  match lengths? (h.getAll .contentLength) with
  | some (n :: rest) => if rest.all (· = n) then some n else Option.none
  | _ => Option.none

/-- Whether the last coding of the last line is chunked. -/
def isChunked (h : Headers) : Bool :=
  match (h.getAll .transferEncoding).getLast?.bind FieldValue.visible? with
  | some cs =>
      match (cs.splitOn ',').getLast? with
      | some coding => (trimBlanks coding).map Char.toLower = "chunked".toList
      | Option.none => false
  | Option.none => false

def hasNoBody (m : Method) (s : Status) : Bool :=
  s.code = 101 || s.code = 204 || s.code = 304 || m = .head ||
    (m = .connect && 200 ≤ s.code && s.code < 300)

/-- Responses that only announce another one. -/
def isInformational (s : Status) : Bool :=
  s.code < 200 && s.code ≠ 101

/-- The largest length of a body. -/
def maxLength : Nat := Nat.pow 2 64 - 3

def ofHead (m : Method) (h : ResponseHead) : Except TransportError Framing :=
  if hasNoBody m h.status then .ok .none
  else if h.headers.contains .transferEncoding then
    if !h.modern then .error .transferEncoding
    else if isChunked h.headers then .ok .chunked
    else .ok .untilClose
  else
    match statedLength? h.headers with
    | some n => if maxLength < n then .error .tooLarge else .ok (.length n)
    | Option.none => if h.headers.contains .contentLength then .error .contentLength else .ok .untilClose

end Framing

namespace Chunked

/-- Where in its chunks a body is. -/
inductive Place where
  | start
  | size (n : Nat)
  | sizeBlanks (n : Nat)
  | extension (n : Nat)
  | sizeEnd (n : Nat)
  | data (left : Nat)
  | dataReturn
  | dataEnd
  | lastReturn
  | trailer
  | trailerEnd
  | lastEnd
  | done

def hexDigit? (b : UInt8) : Option Nat :=
  if 48 ≤ b && b ≤ 57 then some (b.toNat - 48)
  else if 97 ≤ b && b ≤ 102 then some (b.toNat - 97 + 10)
  else if 65 ≤ b && b ≤ 70 then some (b.toNat - 65 + 10)
  else none

open ResponseHead in
/-- Reads the octet behind the size of a chunk. -/
def afterSize (n : Nat) (e : BodyError) (b : UInt8) : Except BodyError Place :=
  if isBlankOctet b then .ok (.sizeBlanks n)
  else if b = 59 then .ok (.extension n)
  else if b = cr then .ok (.sizeEnd n)
  else .error e

open ResponseHead in
/-- Reads one octet that is not data. -/
def step (p : Place) (b : UInt8) : Except BodyError Place :=
  match p with
  | .start =>
      match hexDigit? b with
      | some d => .ok (.size d)
      | none => .error .missingSize
  | .size n =>
      match hexDigit? b with
      | some d => if n * 16 + d < Nat.pow 2 64 then .ok (.size (n * 16 + d)) else .error .sizeOverflow
      | none => afterSize n .size b
  | .sizeBlanks n => afterSize n .sizeBlanks b
  | .extension n =>
      if b = cr then .ok (.sizeEnd n)
      else if b = lf then .error .extension
      else .ok (.extension n)
  | .sizeEnd n =>
      if b = lf then .ok (if n = 0 then .lastReturn else .data n) else .error .sizeEnd
  | .dataReturn => if b = cr then .ok .dataEnd else .error .chunkReturn
  | .dataEnd => if b = lf then .ok .start else .error .chunkEnd
  | .lastReturn => if b = cr then .ok .lastEnd else .ok .trailer
  | .trailer => if b = cr then .ok .trailerEnd else .ok .trailer
  | .trailerEnd => if b = lf then .ok .lastReturn else .error .trailerEnd
  | .lastEnd => if b = lf then .ok .done else .error .finalEnd
  | .data n => .ok (.data n)
  | .done => .ok .done

/-- The data in the chunks of `s`, backwards before `acc`, and how it ends. -/
def decode (acc : Bytes) : Place → Bytes → Bytes × Option BodyError
  | .done, _ => (acc.reverse, none)
  | .data _, [] => (acc.reverse, some .endOfFile)
  | _, [] => (acc.reverse, some .endOfChunkLine)
  | .data left, b :: rest =>
      decode (b :: acc) (if left ≤ 1 then .dataReturn else .data (left - 1)) rest
  | p, b :: rest =>
      match step p b with
      | .ok p => decode acc p rest
      | .error e => (acc.reverse, some e)

end Chunked

namespace Response

/-- The body that `s` holds when the connection closes behind it. -/
def payloadOf (f : Framing) (s : Bytes) (ready : Nat) : Payload :=
  match f with
  | .none => { data := [], ready }
  | .length n =>
      { data := s.take n, error := if s.length < n then some .endOfFile else none, ready }
  | .chunked =>
      let (data, error) := Chunked.decode [] .start s
      { data, error, ready }
  | .untilClose => { data := s, ready }

/-- Reads what a backend sent before it hung up, in answer to a request of method `m`.
At most `fuel` informational responses come before the one that counts. -/
def readFrom (m : Method) (ready : Nat) : Nat → Bytes → Except TransportError Response
  | 0, _ => .error .closed
  | fuel + 1, s =>
      match ResponseHead.read s with
      | .error .partly => .error .closed
      | .error (.fault e) => .error e
      | .ok (h, rest) =>
          if Framing.isInformational h.status then readFrom m ready fuel rest
          else
            match Framing.ofHead m h with
            | .error e => .error e
            | .ok f => .ok ⟨h.status, h.headers, payloadOf f rest ready⟩

end Response

end Gateway
