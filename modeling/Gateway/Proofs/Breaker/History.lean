import Gateway.Breaker
import Mathlib.Data.List.Induction

/-!
# The history of a breaker

What a breaker has counted sums up its history: the failures in a row while it is closed,
the successes of a trial, the time of the last failure. So the history alone tells what
the next call does to the circuit, and there are four ways in which it changes.
-/

namespace Gateway.Breaker

/-- What a breaker is asked for, or told. -/
inductive Kind where
  | permit
  | success
  | failure
  deriving DecidableEq, Repr

/-- Someone asks to be let through, or tells how that ended. -/
structure Call (ι : Type) where
  time : Nat
  kind : Kind
  caller : ι
  deriving DecidableEq, Repr

/-- A call, with the circuit before and after it. -/
structure Mark (ι : Type) where
  call : Call ι
  before : Circuit
  after : Circuit
  deriving DecidableEq, Repr

/-- A breaker and the marks that calls have left, the latest first. -/
structure Chronicle (ι : Type) where
  breaker : Breaker := .fresh
  marks : List (Mark ι) := []

variable {ι : Type}

def take (s : BreakerSettings) (c : Call ι) (b : Breaker) : Breaker :=
  match c.kind with
  | .permit => (b.permit s c.time).2
  | .success => b.success s
  | .failure => b.failure s c.time

def mark (s : BreakerSettings) (c : Call ι) (b : Breaker) : Mark ι where
  call := c
  before := b.circuit
  after := (b.take s c).circuit

def Chronicle.next (s : BreakerSettings) (h : Chronicle ι) (c : Call ι) : Chronicle ι where
  breaker := h.breaker.take s c
  marks := h.breaker.mark s c :: h.marks

/-- What becomes of a new breaker. -/
def chronicle (s : BreakerSettings) (calls : List (Call ι)) : Chronicle ι :=
  calls.foldl (Chronicle.next s) {}

theorem chronicle_concat (s : BreakerSettings) (calls : List (Call ι)) (c : Call ι) :
    chronicle s (calls ++ [c]) = (chronicle s calls).next s c := by
  unfold chronicle
  rw [List.foldl_append]
  rfl

/-! ## What the marks tell -/

namespace Mark

def isSuccess (m : Mark ι) : Bool := m.call.kind = .success

def isFailure (m : Mark ι) : Bool := m.call.kind = .failure

/-- A trial begins. -/
def begins (m : Mark ι) : Bool := m.before ≠ .halfOpen && m.after = .halfOpen

/-- The breaker closes again. -/
def closes (m : Mark ι) : Bool := m.before ≠ .closed && m.after = .closed

end Mark

/-- The failures since the start, the last success or the last closing. -/
def inARow (marks : List (Mark ι)) : Nat :=
  (marks.takeWhile fun m => !(m.isSuccess || m.closes)).countP Mark.isFailure

/-- What has happened since the last trial began. -/
def sinceTrial (marks : List (Mark ι)) : List (Mark ι) :=
  marks.takeWhile fun m => !m.begins

/-- The time of the latest failure of all. -/
def lastFailure? (marks : List (Mark ι)) : Option Nat :=
  (marks.find? Mark.isFailure).map (·.call.time)

/-- A call takes the circuit from one state to another. -/
inductive Turn (s : BreakerSettings) (marks : List (Mark ι)) (c : Call ι) : Circuit → Circuit → Prop where
  /-- The failure completes a row of as many as the threshold says. -/
  | opens : c.kind = .failure → inARow marks + 1 = s.failureThreshold → Turn s marks c .closed .opened
  /-- Someone asks when enough time has passed since the last failure. -/
  | tries {t : Nat} : c.kind = .permit → lastFailure? marks = some t →
      Duration.ofMillis s.timeout ≤ c.time - t → Turn s marks c .opened .halfOpen
  | reopens : c.kind = .failure → Turn s marks c .halfOpen .opened
  /-- The success is the last one that the trial needs. -/
  | closes : c.kind = .success →
      (sinceTrial marks).countP Mark.isSuccess + 1 = s.successThreshold → Turn s marks c .halfOpen .closed

theorem inARow_cons (m : Mark ι) (marks : List (Mark ι)) :
    inARow (m :: marks) =
      if m.isSuccess || m.closes then 0
      else inARow marks + if m.isFailure then 1 else 0 := by
  unfold inARow
  rw [List.takeWhile_cons]
  cases m.isSuccess || m.closes with
  | true => rfl
  | false => exact List.countP_cons

theorem sinceTrial_cons (m : Mark ι) (marks : List (Mark ι)) :
    sinceTrial (m :: marks) = if m.begins then [] else m :: sinceTrial marks := by
  unfold sinceTrial
  rw [List.takeWhile_cons]
  cases m.begins <;> rfl

theorem lastFailure?_cons (m : Mark ι) (marks : List (Mark ι)) :
    lastFailure? (m :: marks) = if m.isFailure then some m.call.time else lastFailure? marks := by
  unfold lastFailure?
  rw [List.find?_cons]
  cases m.isFailure <;> rfl

/-! ## One call -/

/-- All that a call can do to a breaker. -/
inductive Effect (s : BreakerSettings) (c : Call ι) (b : Breaker) : Breaker → Prop where
  | passes : c.kind = .permit → b.circuit ≠ .opened → Effect s c b b
  | refuses : c.kind = .permit → b.circuit = .opened → b.hasRested s c.time = false → Effect s c b b
  | tries : c.kind = .permit → b.circuit = .opened → b.hasRested s c.time = true →
      Effect s c b b.toHalfOpen
  | clears : c.kind = .success → b.circuit = .closed →
      Effect s c b { b with total := b.total + 1, failures := 0 }
  | counts : c.kind = .success → b.circuit = .halfOpen → b.successes + 1 < s.successThreshold →
      Effect s c b { b with total := b.total + 1, successes := b.successes + 1 }
  | closes : c.kind = .success → b.circuit = .halfOpen → s.successThreshold ≤ b.successes + 1 →
      Effect s c b { b with total := b.total + 1 }.toClosed
  | strays : c.kind = .success → b.circuit = .opened → Effect s c b { b with total := b.total + 1 }
  | adds : c.kind = .failure → b.circuit = .closed → b.failures + 1 < s.failureThreshold →
      Effect s c b
        { b with total := b.total + 1, failed := b.failed + 1, failures := b.failures + 1 }
  | opens : c.kind = .failure → b.circuit = .closed → s.failureThreshold ≤ b.failures + 1 →
      Effect s c b
        ({ b with total := b.total + 1, failed := b.failed + 1, failures := b.failures + 1 }.toOpen
          c.time)
  | reopens : c.kind = .failure → b.circuit = .halfOpen →
      Effect s c b ({ b with total := b.total + 1, failed := b.failed + 1 }.toOpen c.time)
  | delays : c.kind = .failure → b.circuit = .opened →
      Effect s c b
        { b with total := b.total + 1, failed := b.failed + 1, lastFailure := some c.time }

theorem take_effect (s : BreakerSettings) (c : Call ι) (b : Breaker) :
    Effect s c b (b.take s c) := by
  obtain ⟨circuit, failures, successes, lastFailure, total, failed⟩ := b
  cases hc : c.kind with
  | permit =>
      simp only [take, hc, permit]
      cases circuit with
      | closed => exact .passes hc Circuit.noConfusion
      | halfOpen => exact .passes hc Circuit.noConfusion
      | opened =>
          dsimp only
          split_ifs with hrested
          · exact .tries hc rfl hrested
          · exact .refuses hc rfl (Bool.eq_false_iff.mpr hrested)
  | success =>
      simp only [take, hc, success]
      cases circuit with
      | closed => exact .clears hc rfl
      | halfOpen =>
          dsimp only
          split_ifs with henough
          · exact .closes hc rfl henough
          · exact .counts hc rfl (Nat.not_le.mp henough)
      | opened => exact .strays hc rfl
  | failure =>
      simp only [take, hc, failure]
      cases circuit with
      | closed =>
          dsimp only
          split_ifs with hmany
          · exact .opens hc rfl hmany
          · exact .adds hc rfl (Nat.not_le.mp hmany)
      | halfOpen => exact .reopens hc rfl
      | opened => exact .delays hc rfl

/-- What the breaker has counted is what the marks tell. -/
structure Counts (s : BreakerSettings) (b : Breaker) (marks : List (Mark ι)) : Prop where
  closed : b.circuit = .closed →
    b.successes = 0 ∧ b.failures = inARow marks ∧ b.failures < s.failureThreshold
  halfOpen : b.circuit = .halfOpen →
    b.failures = 0 ∧ (∃ m ∈ marks, m.begins) ∧ (∀ m ∈ sinceTrial marks, m.isFailure = false) ∧
      b.successes = (sinceTrial marks).countP Mark.isSuccess ∧ b.successes < s.successThreshold
  opened : b.circuit = .opened →
    b.successes = 0 ∧ ∃ t, b.lastFailure = some t ∧ lastFailure? marks = some t
  failures_le : b.failures ≤ s.failureThreshold

variable {s : BreakerSettings} {b b' : Breaker} {marks : List (Mark ι)} {c : Call ι}

theorem counts_closed (hb : b.circuit = .closed) (hsuccesses : b.successes = 0)
    (hfailures : b.failures = inARow marks) (hlt : b.failures < s.failureThreshold) :
    Counts s b marks where
  closed _ := ⟨hsuccesses, hfailures, hlt⟩
  halfOpen h := nomatch hb.symm.trans h
  opened h := nomatch hb.symm.trans h
  failures_le := Nat.le_of_lt hlt

theorem counts_halfOpen (hb : b.circuit = .halfOpen) (hfailures : b.failures = 0)
    (hbegun : ∃ m ∈ marks, m.begins) (hnone : ∀ m ∈ sinceTrial marks, m.isFailure = false)
    (hsuccesses : b.successes = (sinceTrial marks).countP Mark.isSuccess)
    (hlt : b.successes < s.successThreshold) : Counts s b marks where
  closed h := nomatch hb.symm.trans h
  halfOpen _ := ⟨hfailures, hbegun, hnone, hsuccesses, hlt⟩
  opened h := nomatch hb.symm.trans h
  failures_le := hfailures ▸ Nat.zero_le _

theorem counts_opened (hb : b.circuit = .opened) (hsuccesses : b.successes = 0) {t : Nat}
    (hlast : b.lastFailure = some t) (hmarks : lastFailure? marks = some t)
    (hle : b.failures ≤ s.failureThreshold) : Counts s b marks where
  closed h := nomatch hb.symm.trans h
  halfOpen h := nomatch hb.symm.trans h
  opened _ := ⟨hsuccesses, t, hlast, hmarks⟩
  failures_le := hle

/-- A call during a trial that does not end it. -/
theorem Counts.trial_cons (h : Counts s b marks) (hb : b.circuit = .halfOpen)
    (hc : c.kind ≠ .failure) (b' : Breaker) (hb' : b'.circuit = .halfOpen)
    (hfailures : b'.failures = b.failures)
    (hsuccesses : b'.successes = b.successes + if c.kind = .success then 1 else 0)
    (hlt : b'.successes < s.successThreshold) :
    Counts s b' (⟨c, b.circuit, b'.circuit⟩ :: marks) := by
  obtain ⟨hnoFailures, ⟨m, hm, hbegins⟩, hnone, hcount, -⟩ := h.halfOpen hb
  have hsince : sinceTrial (⟨c, b.circuit, b'.circuit⟩ :: marks) =
      ⟨c, b.circuit, b'.circuit⟩ :: sinceTrial marks := by
    rw [sinceTrial_cons, hb]
    rfl
  refine counts_halfOpen hb' (hfailures.trans hnoFailures) ⟨m, List.mem_cons_of_mem _ hm, hbegins⟩
    ?_ ?_ hlt
  · rw [hsince]
    simpa [Mark.isFailure, hc] using hnone
  · rw [hsince, List.countP_cons, ← hcount, hsuccesses]
    simp [Mark.isSuccess]

theorem Counts.next (h : Counts s b marks) (hs : 1 ≤ s.failureThreshold)
    (hs' : 1 ≤ s.successThreshold) (he : Effect s c b b') : Counts s b' (⟨c, b.circuit, b'.circuit⟩ :: marks) := by
  cases he with
  | passes hc hb =>
      cases hcircuit : b.circuit with
      | opened => exact absurd hcircuit hb
      | closed =>
          obtain ⟨hsuccesses, hfailures, hlt⟩ := h.closed hcircuit
          refine counts_closed hcircuit hsuccesses ?_ hlt
          simp [inARow_cons, Mark.isSuccess, Mark.isFailure, Mark.closes, hc, hfailures]
      | halfOpen =>
          have hlt := (h.halfOpen hcircuit).2.2.2.2
          have htrial := h.trial_cons (c := c) hcircuit (by simp [hc]) b hcircuit rfl (by simp [hc]) hlt
          rwa [hcircuit] at htrial
  | refuses hc hb hrested =>
      obtain ⟨hsuccesses, t, hlast, hmarks⟩ := h.opened hb
      refine counts_opened hb hsuccesses hlast ?_ h.failures_le
      simp [lastFailure?_cons, Mark.isFailure, hc, hmarks]
  | tries hc hb hrested =>
      refine counts_halfOpen rfl rfl ⟨_, List.mem_cons_self, ?_⟩ ?_ ?_ hs'
      · simp [Mark.begins, hb, toHalfOpen]
      · simp [sinceTrial_cons, Mark.begins, hb, toHalfOpen]
      · simp [sinceTrial_cons, Mark.begins, hb, toHalfOpen]
  | clears hc hb =>
      obtain ⟨hsuccesses, hfailures, hlt⟩ := h.closed hb
      refine counts_closed hb hsuccesses ?_ hs
      simp [inARow_cons, Mark.isSuccess, hc]
  | counts hc hb hfew => exact h.trial_cons hb (by simp [hc]) _ hb rfl (by simp [hc]) hfew
  | closes hc hb henough =>
      refine counts_closed rfl rfl ?_ hs
      simp [inARow_cons, Mark.isSuccess, hc, toClosed]
  | strays hc hb =>
      obtain ⟨hsuccesses, t, hlast, hmarks⟩ := h.opened hb
      refine counts_opened hb hsuccesses hlast ?_ h.failures_le
      simp [lastFailure?_cons, Mark.isFailure, hc, hmarks]
  | adds hc hb hfew =>
      obtain ⟨hsuccesses, hfailures, hlt⟩ := h.closed hb
      refine counts_closed hb hsuccesses ?_ hfew
      simp [inARow_cons, Mark.isSuccess, Mark.isFailure, Mark.closes, hc, hb, hfailures]
  | opens hc hb hmany =>
      refine counts_opened rfl rfl rfl ?_ (h.closed hb).2.2
      simp [lastFailure?_cons, Mark.isFailure, hc]
  | reopens hc hb =>
      refine counts_opened rfl rfl rfl ?_ h.failures_le
      simp [lastFailure?_cons, Mark.isFailure, hc]
  | delays hc hb =>
      refine counts_opened hb (h.opened hb).1 rfl ?_ h.failures_le
      simp [lastFailure?_cons, Mark.isFailure, hc]

theorem counts_chronicle (hs : 1 ≤ s.failureThreshold) (hs' : 1 ≤ s.successThreshold)
    (calls : List (Call ι)) : Counts s (chronicle s calls).breaker (chronicle s calls).marks := by
  induction calls using List.reverseRecOn with
  | nil => exact counts_closed rfl rfl rfl hs
  | append_singleton calls c ih =>
      rw [chronicle_concat]
      exact ih.next hs hs' (take_effect s c _)

/-! ## What comes next -/

/-- Requests are turned away only while too little time has passed since the last failure. -/
theorem Counts.refused_iff (h : Counts s b marks) (now : Nat) :
    (b.permit s now).1 = false ↔ b.circuit = .opened ∧
      ∃ t, lastFailure? marks = some t ∧ now - t < Duration.ofMillis s.timeout := by
  cases hb : b.circuit with
  | closed => simp [permit, hb]
  | halfOpen => simp [permit, hb]
  | opened =>
      obtain ⟨-, t, hlast, hmarks⟩ := h.opened hb
      by_cases hrested : Duration.ofMillis s.timeout ≤ now - t
      · simp [permit, hb, hasRested, hlast, hmarks, hrested]
      · simp [permit, hb, hasRested, hlast, hmarks, hrested, Nat.not_le.mp hrested]

/-- The circuit changes only in ways that the history tells. -/
theorem Counts.turn (h : Counts s b marks) (he : Effect s c b b') (hne : b'.circuit ≠ b.circuit) :
    Turn s marks c b.circuit b'.circuit := by
  cases he with
  | passes => exact absurd rfl hne
  | refuses => exact absurd rfl hne
  | clears => exact absurd rfl hne
  | counts => exact absurd rfl hne
  | strays => exact absurd rfl hne
  | adds => exact absurd rfl hne
  | delays => exact absurd rfl hne
  | tries hc hb hrested =>
      obtain ⟨-, t, hlast, hmarks⟩ := h.opened hb
      rw [hb]
      refine .tries hc hmarks ?_
      simpa [hasRested, hlast] using hrested
  | closes hc hb henough =>
      obtain ⟨-, -, -, hcount, hlt⟩ := h.halfOpen hb
      rw [hb]
      exact .closes hc (by omega)
  | opens hc hb hmany =>
      obtain ⟨-, hcount, hlt⟩ := h.closed hb
      rw [hb]
      exact .opens hc (by omega)
  | reopens hc hb =>
      rw [hb]
      exact .reopens hc

theorem Counts.circuit_of_turn (h : Counts s b marks) {circuit : Circuit}
    (hturn : Turn s marks c b.circuit circuit) : (b.take s c).circuit = circuit := by
  generalize hb : b.circuit = before at hturn
  cases hturn with
  | opens hc hrow =>
      have hcount := (h.closed hb).2.1
      simp [take, hc, failure, hb, hcount, hrow, toOpen]
  | tries hc hlast hle =>
      obtain ⟨-, t, hlast', hmarks⟩ := h.opened hb
      obtain rfl := Option.some.inj (hlast.symm.trans hmarks)
      simp [take, hc, permit, hb, hasRested, hlast', hle, toHalfOpen]
  | reopens hc => simp [take, hc, failure, hb, toOpen]
  | closes hc hlast =>
      have hcount := (h.halfOpen hb).2.2.2.1
      simp [take, hc, success, hb, hcount, hlast, toClosed]

/-- A breaker has kept to its history, and the history tells what the next call will do. -/
structure Chronicle.Kept (s : BreakerSettings) (h : Chronicle ι) : Prop where
  counts : Counts s h.breaker h.marks
  refused_iff : ∀ now, (h.breaker.permit s now).1 = false ↔ h.breaker.circuit = .opened ∧
    ∃ t, lastFailure? h.marks = some t ∧ now - t < Duration.ofMillis s.timeout
  turns_iff : ∀ (c : Call ι) (circuit : Circuit), circuit ≠ h.breaker.circuit →
    ((h.breaker.take s c).circuit = circuit ↔ Turn s h.marks c h.breaker.circuit circuit)

/-- Whatever is asked of a breaker or told it, and whenever, it keeps to its history. -/
theorem kept_chronicle (hs : 1 ≤ s.failureThreshold) (hs' : 1 ≤ s.successThreshold)
    (calls : List (Call ι)) : (chronicle s calls).Kept s := by
  have hcounts := counts_chronicle hs hs' calls
  refine ⟨hcounts, hcounts.refused_iff, fun c circuit hne => ⟨?_, hcounts.circuit_of_turn⟩⟩
  rintro rfl
  exact hcounts.turn (take_effect s c _) hne

/-- Two failures in a row open the breaker, a late one puts off the trial, and after a success
the trial is still under way. -/
theorem kept_chronicle_late_failure :
    let s : BreakerSettings := ⟨2, 2, 10⟩
    let calls : List (Call Unit) :=
      [⟨0, .failure, ()⟩, ⟨1000000, .failure, ()⟩, ⟨4000000, .failure, ()⟩,
        ⟨12000000, .permit, ()⟩, ⟨14000000, .permit, ()⟩, ⟨15000000, .success, ()⟩]
    1 ≤ s.failureThreshold ∧ 1 ≤ s.successThreshold ∧ (chronicle s calls).Kept s ∧
      (chronicle s calls).marks.map (·.after) =
        [.halfOpen, .halfOpen, .opened, .opened, .opened, .closed] ∧
      (chronicle s calls).breaker.successes = 1 := by
  exact ⟨by decide, by decide, kept_chronicle (by decide) (by decide) _, by decide, by decide⟩

end Gateway.Breaker
