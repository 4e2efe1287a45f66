import Gateway.Error.Basic
import Gateway.Request

/-!
# Routing

A route leads requests of a host, or of any host, whose path begins with a prefix. Of
all routes that match, the one with the longest prefix serves the request; of two with
prefixes of one length, the one that is bound to a host.
-/

namespace Gateway

/-- A host without its port. Brackets around an address are taken off as well. -/
def bareHost (cs : List Char) : List Char :=
  match cs with
  | '[' :: rest => rest.takeWhile (· ≠ ']')
  | cs => cs.takeWhile (· ≠ ':')

def foldCase (cs : List Char) : List Char :=
  cs.map Char.toLower

structure Route (κ : Type) where
  host : Option (List Char)
  path : List Char
  target : κ
  deriving Repr

namespace Route

variable {κ : Type}

/-- The host in lower case and without its port, the prefix with a slash in front. -/
def normal (host : Option String) (pathStart : String) (target : κ) : Route κ where
  host := host.map fun h => foldCase (bareHost h.toList)
  path := match pathStart.toList with
    | '/' :: rest => '/' :: rest
    | cs => '/' :: cs
  target := target

def sameKey (a b : Route κ) : Bool :=
  a.host = b.host && a.path = b.path

def matchesHost (r : Route κ) (host : Option String) : Bool :=
  match r.host with
  | none => true
  | some expected => host.any fun h => foldCase (bareHost h.toList) = foldCase expected

/-- Whether a request of this host and path may take the route. -/
def fits (r : Route κ) (host : Option String) (path : List Char) : Bool :=
  r.matchesHost host && r.path.isPrefixOf path

/-- Octets of the prefix, by which routes are ranked. -/
def length (r : Route κ) : Nat :=
  r.path.foldl (fun n c => n + c.utf8Size) 0

/-- Whether route `a` is preferred to route `b`. -/
def beats (a b : Route κ) : Bool :=
  b.length < a.length || (a.length = b.length && a.host.isSome && b.host.isNone)

/-- What a second route of the same kind is called. -/
def keyText (r : Route κ) : String :=
  (r.host.map String.ofList).getD "*" ++ String.ofList r.path

end Route

/-- Routes in the order of preference; of equal ones, the older comes first. -/
structure RouteTable (κ : Type) where
  routes : List (Route κ) := []
  deriving Repr

namespace RouteTable

variable {κ : Type}

def empty : RouteTable κ := {}

def size (t : RouteTable κ) : Nat := t.routes.length

/-- Puts a route behind all that it does not beat. -/
def place (r : Route κ) : List (Route κ) → List (Route κ)
  | [] => [r]
  | s :: rest => if r.beats s then r :: s :: rest else s :: place r rest

def add (t : RouteTable κ) (host : Option String) (pathStart : String) (target : κ) :
    Except Error (RouteTable κ) :=
  let r := Route.normal host pathStart target
  if t.routes.any r.sameKey then .error (.nameTaken r.keyText)
  else .ok ⟨place r t.routes⟩

def find? (t : RouteTable κ) (host : Option String) (path : List Char) : Option κ :=
  (t.routes.find? fun r => r.fits host path).map (·.target)

end RouteTable

/-- Finds the location that serves a request, if there is one; it may also fail. -/
abbrev Router (κ : Type) := Request → Except Error (Option κ)

/-- Leads every request to one location. -/
def Router.fixed {κ : Type} (target : κ) : Router κ :=
  fun _ => .ok (some target)

def RouteTable.router {κ : Type} (t : RouteTable κ) : Router κ :=
  fun r => .ok (t.find? r.host? r.uri.path.toList)

end Gateway
