import Gateway.Endpoint
import Gateway.Pool.Tally

/-!
# Pools

A pool holds the endpoints of a location and picks one for each attempt. Its endpoints
carry serial numbers, under which their attempts are counted: an endpoint that leaves and
comes back is counted anew.
-/

namespace Gateway

structure Member where
  serial : Nat
  endpoint : Endpoint
  deriving DecidableEq, Repr

def Member.id (m : Member) : String := m.endpoint.id

/-- What a location needs of its pool. -/
class Balancer (β : Type) where
  name : β → String
  members : β → List Member
  next : β → Except Error Member × β
  add : Member → β → Except Error β
  remove : String → β → Except Error β

/-- Adds an endpoint unless its id is taken. -/
def addMember (m : Member) (ms : List Member) : Except Error (List Member) :=
  if ms.any (·.id = m.id) then .error (.endpointExists m.id) else .ok (ms ++ [m])

end Gateway
