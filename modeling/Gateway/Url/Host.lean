import Gateway.Domain.Name
import Gateway.Net.Ip
import Gateway.Url.Percent

/-!
# Hosts of URLs

A host is a domain name or an internet address. A name that ends in a number is an
address of four octets; its parts may be octal or hexadecimal, and the last part stands
for all octets that are left.
-/

namespace Gateway

inductive UrlFault where
  | relativeWithoutBase
  | emptyHost
  | port
  | ipv4
  | ipv6
  | domain
  | domainCharacter
  deriving DecidableEq, Repr

def UrlFault.message : UrlFault → String
  | .relativeWithoutBase => "relative URL without a base"
  | .emptyHost => "empty host"
  | .port => "invalid port number"
  | .ipv4 => "invalid IPv4 address"
  | .ipv6 => "invalid IPv6 address"
  | .domain => "invalid international domain name"
  | .domainCharacter => "invalid domain character"

inductive Host where
  | domain (name : String)
  | ipv4 (a : Ipv4)
  | ipv6 (a : Ipv6)
  deriving DecidableEq, Repr

namespace Host

def text : Host → String
  | .domain name => name
  | .ipv4 a => a.text
  | .ipv6 a => "[" ++ a.text ++ "]"

/-- The digits of a number in a host and their base. -/
def radix : List Char → Nat × List Char
  | '0' :: 'x' :: rest => (16, rest)
  | '0' :: 'X' :: rest => (16, rest)
  | '0' :: d :: rest => (8, d :: rest)
  | cs => (10, cs)

/-- The value of one part; a bare radix mark is zero. -/
def numberPart? (cs : List Char) : Option Nat :=
  if cs.isEmpty then none
  else
    let (base, digits) := radix cs
    (digits.mapM fun c => (Ipv6.hexDigit? c).filter (· < base)).map
      (List.foldl (fun n d => n * base + d) 0)

/-- Whether the last part, or the one before an empty last part, is a number. -/
def endsInNumber (name : List Char) : Bool :=
  let isNumber (part : List Char) : Bool :=
    (!part.isEmpty && part.all Char.isDigit) || (numberPart? part).isSome
  match (name.splitOn '.').reverse with
  | [] :: part :: _ => isNumber part
  | [[]] => false
  | part :: _ => isNumber part
  | [] => false

def octetsValue (octets : List Nat) : Nat :=
  octets.zipIdx.foldl (fun n (octet, i) => n + octet * Nat.pow 256 (3 - i)) 0

/-- An address of one to four parts. -/
def numericName? (name : List Char) : Option Ipv4 :=
  let parts := match (name.splitOn '.').reverse with
    | [] :: rest => rest
    | rest => rest
  if 4 < parts.length then none
  else
    match parts.mapM numberPart? with
    | some (last :: before) =>
        if Nat.pow 256 (4 - before.length) ≤ last || before.any (255 < ·) then none
        else some ⟨UInt32.ofNat (octetsValue before.reverse + last)⟩
    | _ => none

def bracketed? (cs : List Char) : Except UrlFault Host :=
  match cs.reverse with
  | ']' :: inner =>
      match Ipv6.parse? inner.reverse with
      | some a => .ok (.ipv6 a)
      | none => .error .ipv6
  | _ => .error .ipv6

/-- The host of a URL whose scheme has hosts of the internet. -/
def parse (cs : List Char) : Except UrlFault Host :=
  match cs with
  | '[' :: inner => bracketed? inner
  | cs =>
      let decoded := Utf8.decodeChars (Percent.decode (Utf8.encodeChars cs))
      match decoded.bind Domain.toAscii? with
      | none => .error .domain
      | some [] => .error .emptyHost
      | some name =>
          if endsInNumber name then
            match numericName? name with
            | some a => .ok (.ipv4 a)
            | none => .error .ipv4
          else .ok (.domain (String.ofList name))

def forbidden : List Char :=
  [Char.ofNat 0, '\t', '\n', '\r', ' ', '#', '/', ':', '<', '>', '?', '@', '[', '\\', ']', '^', '|']

/-- The host of a URL of any other scheme, which is kept as it is. -/
def parseOpaque (cs : List Char) : Except UrlFault Host :=
  match cs with
  | '[' :: inner => bracketed? inner
  | cs =>
      if cs.any forbidden.contains then .error .domainCharacter
      else .ok (.domain (String.ofList (Percent.encode Percent.controls cs)))

end Host

end Gateway
