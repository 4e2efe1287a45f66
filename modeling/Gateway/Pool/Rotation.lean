import Gateway.Pool.Basic

/-!
# Rotation

The pool that gives every endpoint its turn. The cursor points at the endpoint whose
turn is next; adding and removing endpoints leaves the order of the other turns alone.
-/

namespace Gateway

structure Rotation where
  members : List Member := []
  cursor : Nat := 0
  deriving DecidableEq, Repr

namespace Rotation

def empty : Rotation := {}

def next (r : Rotation) : Except Error Member × Rotation :=
  let index := r.cursor % r.members.length
  match r.members[index]? with
  | none => (.error .noEndpoint, r)
  | some m => (.ok m, { r with cursor := (index + 1) % r.members.length })

def add (m : Member) (r : Rotation) : Except Error Rotation :=
  (addMember m r.members).map fun ms => { r with members := ms }

def remove (id : String) (r : Rotation) : Except Error Rotation :=
  match r.members.findIdx? (·.id = id) with
  | none => .error (.endpointUnknown id)
  | some index =>
      let members := r.members.eraseIdx index
      let cursor := if index < r.cursor then r.cursor - 1 else r.cursor
      .ok { members, cursor := if members.length ≤ cursor then 0 else cursor }

/-- The endpoints in the order of their next turns. -/
def upcoming (r : Rotation) : List Member :=
  r.members.drop r.cursor ++ r.members.take r.cursor

instance : Balancer Rotation where
  name _ := "round_robin"
  members := Rotation.members
  next := Rotation.next
  add := Rotation.add
  remove := Rotation.remove

/-- A pool of the given endpoints, the first of which has serial number `serial`. -/
def ofEndpoints (serial : Nat) (es : List Endpoint) : Except Error Rotation :=
  (es.zipIdx serial).foldlM (fun r (e, n) => r.add ⟨n, e⟩) empty

end Rotation

end Gateway
