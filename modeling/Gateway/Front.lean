import Gateway.Attempt
import Gateway.Body.Reader
import Gateway.Error.Format
import Gateway.Route
import Gateway.Run

/-!
# The front of the gateway

A request is routed to a location, its body is read within the limits of that location,
and the location answers it. What goes wrong on the way is told to the client as a
document. Before that, what is left of the body is drained for a limited time.
-/

namespace Gateway

structure Front (κ : Type) where
  router : Router κ
  limits : κ → Option BodyLimits
  formatter : Formatter := Formatter.json
  /-- How long to drain a body, in nanoseconds. -/
  drainLimit : Nat := 5 * Duration.second

namespace Front

variable {κ ω : Type}

/-- Finds the location for a request and reads the body. -/
def accept (p : Front κ) (r : Request) (now : Nat) (d : Delivery) :
    Option (Reading (Except Error (κ × Request))) :=
  match p.router r with
  | .error e => some ⟨now, .error e, d⟩
  | .ok none => some ⟨now, .error (.rejected (.ofStatus .badGateway)), d⟩
  | .ok (some k) =>
      (((p.limits k).getD {}).read now d).map fun reading =>
        ⟨reading.time,
          match reading.result with
          | .ok body => .ok (k, { r with body })
          | .error e => .error (.rejected e.rejection),
          reading.rest⟩

/-- The header fields of a formatted rejection. A content type that is no value of a
field is left out. -/
def rejectionHeaders (r : Rejection) (contentType : String) : Headers :=
  let value := Utf8.encode contentType
  let h := if FieldValue.isValid value then Headers.empty.insert .contentType value
    else .empty
  match r.retrySeconds? with
  | some seconds => h.insert .retryAfter (Utf8.encode (toString seconds))
  | none => h

/-- The response for an error. -/
def refusal (p : Front κ) (e : Error) : Response :=
  let f := p.formatter e.rejection
  .ofBody f.status (rejectionHeaders e.rejection f.contentType) f.body

/-- The response for an outcome, and when it is given. -/
def conclude (p : Front κ) (now : Nat) (rest : Delivery) : Outcome → Nat × Response
  | .ok r => (now, r)
  | .error e => (rest.drain (now + p.drainLimit) now, p.refusal e)

/-- Serves a request whose body arrives from some time on. Locations take requests at a
time and give an outcome at a later one. -/
def handle (p : Front κ) (exchange : κ → Request → Nat → ω → Run (Outcome × Nat × ω))
    (r : Request) (now : Nat) (d : Delivery) (w : ω) : Run (Nat × Response × ω) :=
  match p.accept r now d with
  | none => .stuck
  | some reading =>
      match reading.result with
      | .error e =>
          let (time, response) := p.conclude reading.time reading.rest (.error e)
          .ended (time, response, w)
      | .ok (k, r) =>
          (exchange k r reading.time w).bind fun (o, time, w) =>
            let (time, response) := p.conclude time reading.rest o
            .ended (time, response, w)

end Front

end Gateway
