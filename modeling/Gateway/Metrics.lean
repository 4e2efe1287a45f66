import Gateway.Attempt
import Gateway.Decimal.Shortest

/-!
# Metrics

Counters of attempts, intercepted attempts and failures, and a histogram of how long
attempts took. They are written in the text format of metrics: for each family two lines
about it and then its samples, in the order of their label values.
-/

namespace Gateway

/-- Values by their labels, which stand in the order of their names. -/
abbrev Samples (α : Type) := List (List (String × String) × α)

namespace Samples

variable {α : Type}

def get? (labels : List (String × String)) (s : Samples α) : Option α :=
  (s.find? (·.1 = labels)).map (·.2)

/-- Changes the value under some labels, starting from `zero`. -/
def upsert (zero : α) (f : α → α) (labels : List (String × String)) : Samples α → Samples α
  | [] => [(labels, f zero)]
  | (l, v) :: rest => if l = labels then (l, f v) :: rest else (l, v) :: upsert zero f labels rest

/-- Whether a list of label values stands before another one or equals it. -/
def valuesBefore : List (String × String) → List (String × String) → Bool
  | a :: as, b :: bs => a.2 < b.2 || (a.2 = b.2 && valuesBefore as bs)
  | _, _ => true

def sorted (s : Samples α) : Samples α :=
  s.mergeSort fun a b => valuesBefore a.1 b.1

end Samples

/-- How many durations did not exceed each bound, their sum and their number. -/
structure Histogram where
  within : List Nat
  sum : Float
  count : Nat

namespace Histogram

/-- Upper bounds of the buckets in seconds. -/
def bounds : List Float :=
  [0.005, 0.01, 0.025, 0.05, 0.1, 0.25, 0.5, 1, 2.5, 5, 10]

def empty : Histogram := ⟨bounds.map fun _ => 0, 0, 0⟩

def observe (seconds : Float) (h : Histogram) : Histogram where
  within := List.zipWith (fun bound n => if seconds ≤ bound then n + 1 else n) bounds h.within
  sum := h.sum + seconds
  count := h.count + 1

end Histogram

structure Metrics where
  attempts : Samples Nat := []
  durations : Samples Histogram := []
  intercepted : Samples Nat := []
  failures : Samples Nat := []

namespace Metrics

def empty : Metrics := {}

def recordAttempt (location endpoint outcome : String) (nanos : Nat) (m : Metrics) : Metrics :=
  { m with
    attempts := m.attempts.upsert 0 (· + 1)
      [("endpoint", endpoint), ("location", location), ("outcome", outcome)]
    durations := m.durations.upsert .empty (Histogram.observe (Duration.toSeconds nanos))
      [("endpoint", endpoint), ("location", location)] }

def recordIntercepted (location : String) (m : Metrics) : Metrics :=
  { m with intercepted := m.intercepted.upsert 0 (· + 1) [("location", location)] }

def recordFailure (location reason : String) (m : Metrics) : Metrics :=
  { m with failures := m.failures.upsert 0 (· + 1) [("location", location), ("reason", reason)] }

/-- Under which outcome an attempt is counted. -/
def outcomeLabel : Outcome → String
  | .ok r => toString r.status.code
  | .error e => if e.isTransport then "transport_error" else "error"

def observeAttempt (location : String) (a : Attempt) (m : Metrics) : Metrics :=
  if a.intercepted then m.recordIntercepted location
  else m.recordAttempt location a.endpoint.id (outcomeLabel a.outcome) a.duration

def reasonLabel : Error → String
  | .noEndpoint => "no_available_endpoints"
  | _ => "error"

def observeFailure (location : String) (e : Error) (m : Metrics) : Metrics :=
  m.recordFailure location (reasonLabel e)

def escape (s : String) : String :=
  String.ofList (s.toList.flatMap fun c =>
    if c = '\\' then ['\\', '\\']
    else if c = '\n' then ['\\', 'n']
    else if c = '"' then ['\\', '"']
    else [c])

def label (l : String × String) : String :=
  l.1 ++ "=\"" ++ escape l.2 ++ "\""

def sample (name : String) (labels : List (String × String)) (value : String) : String :=
  name ++ "\x7b" ++ ",".intercalate (labels.map label) ++ "\x7d " ++ value

def family (name help kind : String) (lines : List String) : List String :=
  if lines.isEmpty then []
  else ("# HELP " ++ name ++ " " ++ help) :: ("# TYPE " ++ name ++ " " ++ kind) :: lines

def counterLines (name : String) (s : Samples Nat) : List String :=
  s.sorted.map fun (labels, n) => sample name labels (toString n)

def histogramLines (name : String) (labels : List (String × String)) (h : Histogram) :
    List String :=
  let bucket (bound : String) (n : Nat) : String :=
    sample (name ++ "_bucket") (labels ++ [("le", bound)]) (toString n)
  List.zipWith (fun bound n => bucket (Shortest.plain bound) n) Histogram.bounds h.within ++
    [bucket "+Inf" h.count, sample (name ++ "_sum") labels (Shortest.plain h.sum),
      sample (name ++ "_count") labels (toString h.count)]

def attemptsName : String := "proxy_attempts_total"
def durationName : String := "proxy_attempt_duration_seconds"
def interceptedName : String := "proxy_intercepted_total"
def failuresName : String := "proxy_failures_total"

/-- All families that have samples, by name. -/
def lines (m : Metrics) : List String :=
  family durationName "Attempt duration in seconds" "histogram"
      (m.durations.sorted.flatMap fun (labels, h) => histogramLines durationName labels h) ++
    family attemptsName "Attempts made against endpoints" "counter"
      (counterLines attemptsName m.attempts) ++
    family failuresName "Requests that failed before any attempt was made" "counter"
      (counterLines failuresName m.failures) ++
    family interceptedName "Attempts answered by a middleware without reaching a backend" "counter"
      (counterLines interceptedName m.intercepted)

end Metrics

end Gateway
