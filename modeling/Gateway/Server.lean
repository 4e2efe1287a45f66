import Gateway.Net.Socket

/-!
# The server

A server binds an address of its host and hands the requests on its connections to a
handler. It does not start at an address that belongs to another host, nor without a
handler; the address is looked at first.
-/

namespace Gateway

/-- Why a server does not start. -/
inductive ServerFault where
  | unbound (address : SocketAddress)
  | noHandler
  deriving DecidableEq, Repr

def ServerFault.message : ServerFault → String
  | .unbound address => "Failed to bind " ++ address.text
  | .noHandler => "handler must be set via with_handler()"

namespace Ipv4

/-- The address of the host for itself, or of all its interfaces. -/
def isOwn (a : Ipv4) : Bool :=
  a.octet 0 = 127 || a = unspecified

end Ipv4

namespace Ipv6

/-- The address of the host for itself, or of all its interfaces. -/
def isOwn (a : Ipv6) : Bool :=
  a.groups.toList.take 7 = List.replicate 7 0 && a.groups[7] ≤ 1

end Ipv6

def Ip.isOwn : Ip → Bool
  | .v4 a => a.isOwn
  | .v6 a => a.isOwn

/-- A server that has not been started. Its handler is any value that can handle
requests. -/
structure Server (η : Type) where
  address : SocketAddress
  handler : Option η := none

namespace Server

variable {η : Type}

/-- The handler that takes the connections once the server runs. -/
def start (s : Server η) : Except ServerFault η :=
  if s.address.ip.isOwn then
    match s.handler with
    | some h => .ok h
    | none => .error .noHandler
  else .error (.unbound s.address)

end Server

end Gateway
