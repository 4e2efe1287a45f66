import Gateway.Proofs.Location.Builtin

/-!
# Metering

The metrics that stand under the name of a location are kept by the observer for it, and what
stands under other names is of no account. After any traffic each of its samples has counted
the attempts or failures that belong to it.
-/

namespace Gateway

/-! ## Samples -/

namespace Samples

variable {α : Type}

/-- The samples whose labels `p` picks. -/
def whose (p : List (String × String) → Bool) (s : Samples α) : Samples α :=
  s.filter fun e => p e.1

/-- What a sample has counted; one that is missing has counted nothing. -/
def reading (c : α → Nat) (labels : List (String × String)) (s : Samples α) : Nat :=
  ((s.get? labels).map c).getD 0

/-- What these samples have counted together. -/
def total (p : List (String × String) → Bool) (s : Samples Nat) : Nat :=
  ((s.whose p).map (·.2)).sum

theorem upsert_cons (zero : α) (f : α → α) (labels key : List (String × String)) (v : α)
    (s : Samples α) :
    upsert zero f labels ((key, v) :: s) =
      if key = labels then (key, f v) :: s else (key, v) :: upsert zero f labels s := by
  rfl

theorem whose_upsert (zero : α) (f : α → α) (p : List (String × String) → Bool)
    (labels : List (String × String)) (s : Samples α) :
    (s.upsert zero f labels).whose p =
      if p labels then (s.whose p).upsert zero f labels else s.whose p := by
  unfold whose
  induction s with
  | nil => cases h : p labels <;> simp [upsert, h]
  | cons e s ih =>
      obtain ⟨key, v⟩ := e
      rw [upsert_cons]
      by_cases hkey : key = labels
      · subst hkey
        cases h : p key <;> simp [h, upsert_cons]
      · rw [if_neg hkey]
        cases h : p key <;> cases h' : p labels <;> simp [h, h', ih, hkey, upsert_cons]

end Samples

/-! ## Outcomes and reasons -/

/-- Whether an attempt counts as failed: it ended in an error, or the server said that it had
one. -/
def Attempt.failed (a : Attempt) : Bool :=
  match a.outcome with
  | .ok response => 500 ≤ response.status.code && response.status.code ≤ 599
  | .error _ => true

namespace Metrics

/-- Whether samples stand under the name of a location. -/
def isFor (name : String) (labels : List (String × String)) : Bool :=
  labels.contains ("location", name)

/-- The metrics under the name of a location. -/
def of (name : String) (m : Metrics) : Metrics where
  attempts := m.attempts.whose (isFor name)
  durations := m.durations.whose (isFor name)
  intercepted := m.intercepted.whose (isFor name)
  failures := m.failures.whose (isFor name)

/-- The labels of the attempts at an endpoint that are counted under an outcome. -/
def attemptLabels (name endpoint outcome : String) : List (String × String) :=
  [("endpoint", endpoint), ("location", name), ("outcome", outcome)]

def durationLabels (name endpoint : String) : List (String × String) :=
  [("endpoint", endpoint), ("location", name)]

def failureLabels (name reason : String) : List (String × String) :=
  [("location", name), ("reason", reason)]

/-- Whether samples are for an endpoint of a location, whatever the outcome. -/
def isAt (name endpoint : String) (labels : List (String × String)) : Bool :=
  isFor name labels && labels.contains ("endpoint", endpoint)

theorem isFor_attemptLabels (name location endpoint outcome : String) :
    isFor name (attemptLabels location endpoint outcome) = decide (location = name) := by
  simp [isFor, attemptLabels, eq_comm]

theorem isFor_durationLabels (name location endpoint : String) :
    isFor name (durationLabels location endpoint) = decide (location = name) := by
  simp [isFor, durationLabels, eq_comm]

theorem isFor_failureLabels (name location reason : String) :
    isFor name (failureLabels location reason) = decide (location = name) := by
  simp [isFor, failureLabels, eq_comm]

theorem isFor_single (name location : String) :
    isFor name [("location", location)] = decide (location = name) := by
  simp [isFor, eq_comm]

theorem recordAttempt_eq (name endpoint outcome : String) (nanos : Nat) (m : Metrics) :
    m.recordAttempt name endpoint outcome nanos =
      { m with
        attempts := m.attempts.upsert 0 (· + 1) (attemptLabels name endpoint outcome)
        durations := m.durations.upsert .empty (Histogram.observe (Duration.toSeconds nanos))
          (durationLabels name endpoint) } := by
  rfl

theorem recordFailure_eq (name reason : String) (m : Metrics) :
    m.recordFailure name reason =
      { m with failures := m.failures.upsert 0 (· + 1) (failureLabels name reason) } := by
  rfl

/-- What is written down for one location says nothing about another one. -/
theorem of_observeAttempt (name location : String) (a : Attempt) (m : Metrics) :
    (m.observeAttempt location a).of name =
      if location = name then (m.of name).observeAttempt name a else m.of name := by
  unfold observeAttempt
  by_cases h : location = name
  · subst h
    cases a.intercepted <;>
      simp [of, recordIntercepted, recordAttempt_eq, Samples.whose_upsert, isFor_attemptLabels,
        isFor_durationLabels, isFor_single]
  · cases a.intercepted <;>
      simp [of, recordIntercepted, recordAttempt_eq, Samples.whose_upsert, isFor_attemptLabels,
        isFor_durationLabels, isFor_single, h]

theorem of_observeFailure (name location : String) (e : Error) (m : Metrics) :
    (m.observeFailure location e).of name =
      if location = name then (m.of name).observeFailure name e else m.of name := by
  unfold observeFailure
  by_cases h : location = name
  · subst h
    simp [of, recordFailure_eq, Samples.whose_upsert, isFor_failureLabels]
  · simp [of, recordFailure_eq, Samples.whose_upsert, isFor_failureLabels, h]

end Metrics

/-- What is written down when a deed is done, once. -/
def Deed.meter {μ ο : Type} (name : String) : Deed μ ο → Metrics → Metrics
  | .ended _ a _ => fun m => m.observeAttempt name a
  | .unplaced e _ => fun m => m.observeFailure name e
  | _ => id

/-- What has been written down of some deeds. -/
def Metrics.after {μ ο : Type} (name : String) (ds : List (Deed μ ο)) : Metrics :=
  ds.foldl (fun m d => d.meter name m) .empty

namespace Metrics

variable {μ ο : Type} {name : String}

end Metrics

/-! ## The observer of the metrics -/

/-- Whether an observer keeps the metrics under this name. -/
def Observer.records {ζ : Type} (name : String) : Observer ζ → Bool
  | .metrics location => location = name
  | .custom _ => false

theorem foldl_if {α η : Type} (p : η → Bool) (g : α → α) (ys : List η) (x : α) :
    ys.foldl (fun x y => if p y then g x else x) x = g^[ys.countP p] x := by
  induction ys generalizing x with
  | nil => rfl
  | cons y ys ih =>
      rw [List.foldl_cons, ih, List.countP_cons]
      cases h : p y <;> simp

namespace Builtin

variable {β ξ ζ τ : Type} [Balancer β] {c : Custom β ξ ζ τ} {name : String}

/-- The metrics under a name. -/
def Custom.Keep.metrics (hc : c.Keep fun s => s.shared.metrics.of name) :
    Account c.handlers Metrics where
  view s := s.shared.metrics.of name
  told _ _ m := m
  seen o a m := if o.2.records name then m.observeAttempt name a else m
  missed o e m := if o.2.records name then m.observeFailure name e else m
  start _ m := m
  finish _ _ m := m
  view_onRequest := hc.view_onRequest (fun _ _ _ => rfl) (fun _ _ _ => rfl)
  view_onResponse := by
    rintro ⟨n, ⟨settings, slot⟩ | slot | x⟩ r a s
    · rfl
    · rfl
    · exact hc.onResponse (n, x) r a s
  view_seeRequest := hc.view_seeRequest
  view_seeResponse := by
    rintro ⟨n, location | z⟩ r a s
    · refine (Metrics.of_observeAttempt name location a s.shared.metrics).trans ?_
      simp [Observer.records]
    · exact hc.seeResponse (n, z) r a s
  view_seeFailure := by
    rintro ⟨n, location | z⟩ r e s
    · refine (Metrics.of_observeFailure name location e s.shared.metrics).trans ?_
      simp [Observer.records]
    · exact hc.seeFailure (n, z) r e s
  view_pick _ := rfl
  view_draws _ _ := rfl
  view_startAttempt _ _ := rfl
  view_finishAttempt _ _ _ := rfl

end Builtin

end Gateway
