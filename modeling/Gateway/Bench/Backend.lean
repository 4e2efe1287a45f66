import Gateway.Attempt
import Gateway.Http.Framing
import Gateway.Wire

/-!
# Backends of a bench

On a bench, time and backends are part of the input. A backend either has its outcomes
ready, or it takes connections and does with each of them what its script says. Of a list
of scripts, each is used once and the last one for ever.
-/

namespace Gateway.Bench

/-- An outcome that is ready after some time. -/
structure Canned where
  delay : Nat
  outcome : Outcome

/-- What a backend does with a connection. All but the first two take the request. -/
inductive Conduct where
  | refuse
  /-- Never connects. -/
  | hang
  | close
  /-- Says nothing for ever. -/
  | stall
  /-- Sends these octets and hangs up. -/
  | raw (data : Bytes)
  /-- Sends a response; there is a pause between its head and its body. -/
  | reply (status : Status) (headers : Headers) (body : Bytes) (pause : Nat)

/-- The time to connect, and from the request to what follows. -/
structure Behaviour where
  connect : Nat := 0
  delay : Nat := 0
  conduct : Conduct

/-- The next one of a list of scripts, and the list afterwards. -/
def takeScript {α : Type} : List α → Option α × List α
  | [] => (none, [])
  | [a] => (some a, [a])
  | a :: rest => (some a, rest)

/-- Takes the next script under a key. -/
def takeAt {α : Type} (key : String) : List (String × List α) → Option α × List (String × List α)
  | [] => (none, [])
  | (k, scripts) :: rest =>
      if k = key then
        let (a, scripts) := takeScript scripts
        (a, (k, scripts) :: rest)
      else
        let (a, rest) := takeAt key rest
        (a, (k, scripts) :: rest)

/-- How requests reach backends. -/
inductive Line where
  /-- Outcomes by scheme and authority. -/
  | canned (replies : List (String × List Canned))
  /-- Connections by origin, and how long to wait for the head of a response. -/
  | network (timeout : Option Nat) (backends : List (String × List Behaviour))

/-- What a backend was sent. -/
inductive Sent where
  | direct (o : Outbound)
  | wired (origin : String) (w : WireRequest)

/-- What becomes of a connection: when the request is on it, and when it ends how. -/
structure Course where
  connected : Option Nat
  ended : Option (Nat × Outcome)

def headLine (n v : String) : Bytes :=
  Utf8.encode (n ++ ": " ++ v ++ "\r\n")

def fieldLine (n : FieldName) (v : Bytes) : Bytes :=
  Utf8.encode (n.text ++ ": ") ++ v ++ Utf8.encode "\r\n"

/-- Responses without a body do not state its length. -/
def hasLength (s : Status) : Bool :=
  s.code ≠ 204 && s.code ≠ 304

/-- A response as a backend sends it. -/
def replyOctets (m : Method) (s : Status) (h : Headers) (body : Bytes) : Bytes :=
  let length := if hasLength s then headLine "content-length" (toString body.length) else []
  Utf8.encode ("HTTP/1.0 " ++ s.text ++ "\r\n") ++ (h.lines.flatMap fun (n, v) => fieldLine n v) ++
    length ++ Utf8.encode "\r\n" ++ (if hasLength s && m ≠ .head then body else [])

def readOctets (m : Method) (ready : Nat) (s : Bytes) : Outcome :=
  match Response.readFrom m ready (s.length + 1) s with
  | .ok r => .ok r
  | .error e => .error (.transport e)

/-- A body of some length is there only after the pause. -/
def afterPause (pause : Nat) (o : Outcome) : Outcome :=
  o.map fun r =>
    if r.payload.data.isEmpty then r
    else { r with payload := { r.payload with ready := r.payload.ready + pause } }

/-- The course of a connection that is begun at some time. -/
def Behaviour.course (b : Behaviour) (m : Method) (now : Nat) : Course :=
  let connected := now + b.connect
  let answered := connected + b.delay
  match b.conduct with
  | .refuse => ⟨none, some (connected, .error (.transport .refused))⟩
  | .hang => ⟨none, none⟩
  | .close => ⟨some connected, some (answered, .error (.transport .closed))⟩
  | .stall => ⟨some connected, none⟩
  | .raw data => ⟨some connected, some (answered, readOctets m answered data)⟩
  | .reply s h body pause =>
      ⟨some connected, some (answered, afterPause pause (readOctets m answered (replyOctets m s h body)))⟩

/-- A connection to nobody is refused. -/
def refusedAt (now : Nat) : Course :=
  ⟨none, some (now, .error (.transport .refused))⟩

/-- Cuts a course off when the wait is over. -/
def Course.within (limit : Option Nat) (now : Nat) (c : Course) : Course :=
  match limit with
  | none => c
  | some wait =>
      let deadline := now + wait
      let onTime := c.ended.filter fun e => e.1 ≤ deadline
      ⟨c.connected.filter (· ≤ deadline), some (onTime.getD (deadline, .error (.timeout wait)))⟩

end Gateway.Bench
