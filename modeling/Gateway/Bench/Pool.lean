import Gateway.Bench.Script
import Gateway.Pool.Rotation

/-!
# Pools of a bench

The pool of a location on a bench is a rotation, or it follows a script that says which
of its endpoints to give each time.
-/

namespace Gateway.Bench

inductive Pool where
  | rotation (r : Rotation)
  | scripted (members : List Member) (offers : List Offer)

namespace Pool

def gaveUp : Error := .internal "balancer gave up"

/-- What an offer comes to. -/
def offered (members : List Member) : Option Offer → Except Error Member
  | some (.member i) =>
      match members[i]? with
      | some m => .ok m
      | none => .error .noEndpoint
  | some .nobody => .error .noEndpoint
  | some .giveUp => .error gaveUp
  | none => .error gaveUp

def next : Pool → Except Error Member × Pool
  | .rotation r =>
      let (m, r) := r.next
      (m, .rotation r)
  | .scripted members offers =>
      let (o, offers) := takeScript offers
      (offered members o, .scripted members offers)

def add (m : Member) : Pool → Except Error Pool
  | .rotation r => (r.add m).map .rotation
  | .scripted members offers => (addMember m members).map (.scripted · offers)

def remove (id : String) : Pool → Except Error Pool
  | .rotation r => (r.remove id).map .rotation
  | .scripted members offers =>
      if members.any (·.id = id) then .ok (.scripted (members.filter (·.id ≠ id)) offers)
      else .error (.endpointUnknown id)

def members : Pool → List Member
  | .rotation r => r.members
  | .scripted members _ => members

instance : Balancer Pool where
  name
    | .rotation _ => "round_robin"
    | .scripted .. => "scripted"
  members := members
  next := next
  add := add
  remove := remove

end Pool

end Gateway.Bench
