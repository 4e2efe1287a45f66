/-!
# Octets and UTF-8 text

Message bodies and header values are lists of octets. This module reads them as
text. `scan` takes one character, or one ill-formed sequence, off the front; the
strict reader `decode` refuses ill-formed input, and `decodeLossy` puts U+FFFD in
place of each longest ill-formed beginning of a character.
-/

namespace Gateway

/-- Octets as they travel on a connection. -/
abbrev Bytes := List UInt8

namespace Utf8

def encodeChars (cs : List Char) : Bytes :=
  cs.flatMap String.utf8EncodeChar

def encode (s : String) : Bytes :=
  encodeChars s.toList

theorem encode_append (s t : String) : encode (s ++ t) = encode s ++ encode t := by
  simp [encode, encodeChars]

/-- Octets that continue a character, `10xxxxxx`. -/
def isTail (b : UInt8) : Bool :=
  0x80 ≤ b && b ≤ 0xBF

/-- The six payload bits of a continuation octet. -/
def tailBits (b : UInt8) : Nat :=
  b.toNat % 64

/-- The second octets that may follow a lead octet of three or four, which rules out
overlong forms, surrogates and values above U+10FFFF. -/
def secondRange (lead : UInt8) : UInt8 × UInt8 :=
  if lead = 0xE0 then (0xA0, 0xBF)
  else if lead = 0xED then (0x80, 0x9F)
  else if lead = 0xF0 then (0x90, 0xBF)
  else if lead = 0xF4 then (0x80, 0x8F)
  else (0x80, 0xBF)

def isSecond (lead b : UInt8) : Bool :=
  (secondRange lead).1 ≤ b && b ≤ (secondRange lead).2

/-- The character that starts with octet `b` and what follows it, or nothing and what
follows the longest beginning of a character found there. -/
def scan (b : UInt8) (rest : Bytes) : Option Char × Bytes :=
  if b < 0x80 then (some (Char.ofNat b.toNat), rest)
  else if b < 0xC2 then (none, rest)
  else if b < 0xE0 then
    match rest with
    | c :: r =>
        if isTail c then (some (Char.ofNat (b.toNat % 32 * 64 + tailBits c)), r)
        else (none, rest)
    | [] => (none, rest)
  else if b < 0xF0 then
    match rest with
    | c :: d :: r =>
        if isSecond b c then
          if isTail d then
            (some (Char.ofNat (b.toNat % 16 * 4096 + tailBits c * 64 + tailBits d)), r)
          else (none, d :: r)
        else (none, rest)
    | [c] => if isSecond b c then (none, []) else (none, rest)
    | [] => (none, rest)
  else if b < 0xF5 then
    match rest with
    | c :: d :: e :: r =>
        if isSecond b c then
          if isTail d then
            if isTail e then
              (some (Char.ofNat (b.toNat % 8 * 262144 + tailBits c * 4096
                + tailBits d * 64 + tailBits e)), r)
            else (none, e :: r)
          else (none, d :: e :: r)
        else (none, rest)
    | [c, d] =>
        if isSecond b c then if isTail d then (none, []) else (none, [d])
        else (none, rest)
    | [c] => if isSecond b c then (none, []) else (none, rest)
    | [] => (none, rest)
  else (none, rest)

theorem length_scan_le (b : UInt8) (rest : Bytes) :
    (scan b rest).2.length ≤ rest.length := by
  unfold scan
  repeat' split
  all_goals simp_all
  all_goals omega

theorem length_lt_of_scan {b : UInt8} {rest r : Bytes} {c? : Option Char}
    (h : scan b rest = (c?, r)) : r.length < (b :: rest).length := by
  have := length_scan_le b rest
  rw [h] at this
  exact Nat.lt_succ_of_le this

/-- The characters of well-formed text. -/
def decodeChars : Bytes → Option (List Char)
  | [] => some []
  | b :: rest =>
      match h : scan b rest with
      | (some c, r) =>
          have := length_lt_of_scan h
          (decodeChars r).map (c :: ·)
      | (none, _) => none
termination_by s => s.length
decreasing_by assumption

def decode (s : Bytes) : Option String :=
  (decodeChars s).map String.ofList

/-- Text with U+FFFD for whatever is not well formed. -/
def decodeLossyChars : Bytes → List Char
  | [] => []
  | b :: rest =>
      match h : scan b rest with
      | (c?, r) =>
          have := length_lt_of_scan h
          c?.getD (Char.ofNat 0xFFFD) :: decodeLossyChars r
termination_by s => s.length
decreasing_by assumption

def decodeLossy (s : Bytes) : String :=
  String.ofList (decodeLossyChars s)

end Utf8

end Gateway
