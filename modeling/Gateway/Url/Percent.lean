import Gateway.Text.Utf8

/-!
# Percent encoding

An octet that may not stand in some part of a URL is written as a percent sign and two
hexadecimal digits. Each part has its own set of characters to encode; controls and
characters beyond ASCII are in all of them.
-/

namespace Gateway.Percent

/-- Characters that are encoded, besides controls and those beyond ASCII. -/
abbrev CharSet := List Char

def controls : CharSet := []
def fragment : CharSet := [' ', '"', '<', '>', '\x60']
def query : CharSet := [' ', '"', '#', '<', '>']
def webQuery : CharSet := '\x27' :: query
def path : CharSet := fragment ++ ['#', '?', '\x7b', '\x7d']
def userinfo : CharSet := path ++ ['/', ':', ';', '=', '@', '[', '\\', ']', '^', '|']

def upperHex (n : Nat) : Char :=
  if n < 10 then Char.ofNat ('0'.toNat + n) else Char.ofNat ('A'.toNat + n - 10)

def encodeOctet (b : UInt8) : List Char :=
  ['%', upperHex (b.toNat / 16), upperHex (b.toNat % 16)]

def isEncoded (set : CharSet) (c : Char) : Bool :=
  c.toNat < 0x20 || 0x7F ≤ c.toNat || set.contains c

def encodeChar (set : CharSet) (c : Char) : List Char :=
  if isEncoded set c then (String.utf8EncodeChar c).flatMap encodeOctet else [c]

def encode (set : CharSet) (cs : List Char) : List Char :=
  cs.flatMap (encodeChar set)

def hexValue? (b : UInt8) : Option UInt8 :=
  if 0x30 ≤ b && b ≤ 0x39 then some (b - 0x30)
  else if 0x61 ≤ b && b ≤ 0x66 then some (b - 0x61 + 10)
  else if 0x41 ≤ b && b ≤ 0x46 then some (b - 0x41 + 10)
  else none

/-- Replaces each encoded octet; a percent sign without two digits stays. -/
def decode : Bytes → Bytes
  | 0x25 :: a :: b :: rest =>
      match hexValue? a, hexValue? b with
      | some x, some y => (x * 16 + y) :: decode rest
      | _, _ => 0x25 :: decode (a :: b :: rest)
  | c :: rest => c :: decode rest
  | [] => []

end Gateway.Percent
