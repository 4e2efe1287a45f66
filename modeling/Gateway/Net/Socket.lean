import Gateway.Net.Ip

/-!
# Socket addresses

An address with a port. Addresses of eight groups stand in brackets and may name a zone
by number.
-/

namespace Gateway

structure SocketAddress where
  ip : Ip
  zone : Nat := 0
  port : UInt16
  deriving DecidableEq, Repr

namespace SocketAddress

def text (a : SocketAddress) : String :=
  match a.ip with
  | .v4 ip => ip.text ++ ":" ++ toString a.port.toNat
  | .v6 ip =>
      let zone := if a.zone = 0 then "" else "%" ++ toString a.zone
      "[" ++ ip.mixedText ++ zone ++ "]:" ++ toString a.port.toNat

/-- A decimal number below `limit`, with leading zeros or without, and what follows. -/
def number? (limit : Nat) (cs : List Char) : Option (Nat × List Char) :=
  let ds := cs.takeWhile Char.isDigit
  let n := ds.foldl (fun n c => n * 10 + (c.toNat - '0'.toNat)) 0
  if ds.isEmpty || limit ≤ n then none else some (n, cs.dropWhile Char.isDigit)

def port? : List Char → Option UInt16
  | ':' :: rest =>
      match number? 65536 rest with
      | some (n, []) => some (UInt16.ofNat n)
      | _ => none
  | _ => none

def zone? : List Char → Option (Nat × List Char)
  | '%' :: rest => number? (Nat.pow 2 32) rest
  | rest => some (0, rest)

def parseChars? : List Char → Option SocketAddress
  | '[' :: rest => do
      let (ip, rest) ← Ipv6.scan? rest
      let (zone, rest) ← zone? rest
      match rest with
      | ']' :: rest => pure { ip := .v6 ip, zone, port := ← port? rest }
      | _ => none
  | cs => do
      let (ip, rest) ← Ipv4.scan? cs
      pure { ip := .v4 ip, port := ← port? rest }

def parse? (s : String) : Option SocketAddress :=
  parseChars? s.toList

end SocketAddress

end Gateway
