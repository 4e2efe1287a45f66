import Gateway.Body.Reader

/-!
# What a reader gets

A body is brought in chunks until it ends, breaks off or stalls. A reader takes all of it if
all of it comes in time and is not too long, and gives up at the first thing that is wrong.
What it leaves is drained in the same way, without a limit of its size.
-/

namespace Gateway

def BodyPiece.octets : BodyPiece → Bytes
  | .data b => b
  | _ => []

namespace Delivery

/-- All octets that a body has. -/
def octets : Delivery → Bytes
  | .whole b => b
  | .sent steps _ _ _ _ => steps.flatMap (·.piece.octets)
  | .asked steps _ => steps.flatMap (·.piece.octets)

/-- A body brings some octets to a reader that begins at `now` and has them at `t`. -/
inductive Brings (now : Nat) (d : Delivery) : Bytes → Nat → Delivery → Prop
  | nothing : Brings now d [] now d
  | chunk {bs t d' t' b d''} : Brings now d bs t d' → d'.next? t = some (t', .chunk b, d'') →
      Brings now d (bs ++ b) t' d''

variable {now t : Nat} {d d' : Delivery} {bs : Bytes}

/-- What comes next for a reader does not come before it waits, and is a part of the body. -/
theorem next?_spec {a : Arrival} (h : d.next? now = some (t, a, d')) :
    now ≤ t ∧
      match a with
      | .chunk b => d.octets = b ++ d'.octets
      | .finished => d.octets = []
      | .fault _ => True := by
  cases d with
  | whole b =>
      by_cases hb : b.isEmpty
      · simp only [next?, if_pos hb] at h
        cases h
        exact ⟨Nat.le_refl now, List.isEmpty_iff.mp hb⟩
      · simp only [next?, if_neg hb] at h
        cases h
        exact ⟨Nat.le_refl now, (List.append_nil b).symm⟩
  | sent steps accepted taken declared honoured =>
      rcases steps with _ | ⟨⟨delay, piece⟩, steps⟩
      · cases h
        exact ⟨Nat.le_max_left _ _, rfl⟩
      · cases piece <;> cases h
        · exact ⟨Nat.le_max_left _ _, rfl⟩
        · exact ⟨Nat.le_max_left _ _, trivial⟩
  | asked steps since =>
      rcases steps with _ | ⟨⟨delay, piece⟩, steps⟩
      · cases h
        exact ⟨Nat.le_refl now, rfl⟩
      · cases piece <;> cases h
        · exact ⟨Nat.le_max_left _ _, rfl⟩
        · exact ⟨Nat.le_max_left _ _, trivial⟩

theorem Brings.octets_eq (h : d.Brings now bs t d') : d.octets = bs ++ d'.octets := by
  induction h with
  | nothing => rfl
  | chunk _ hnext ih => rw [ih, (next?_spec hnext).2, List.append_assoc]

/-- A body that has ended has brought all of its octets. -/
theorem Brings.eq_octets (h : d.Brings now bs t d') {t' : Nat} {d'' : Delivery}
    (hnext : d'.next? t = some (t', .finished, d'')) : bs = d.octets := by
  rw [h.octets_eq, (next?_spec hnext).2, List.append_nil]

end Delivery

/-! ## Reading within limits -/

namespace BodyLimits

variable {l : BodyLimits} {now t : Nat} {d d' : Delivery} {bs : Bytes}

/-- Something that comes at `t` comes in time for a reader that began at `now`. -/
def InTime (l : BodyLimits) (now t : Nat) : Prop :=
  ∀ limit, l.timeout = some limit → t ≤ now + limit

def Fits (l : BodyLimits) (n : Nat) : Prop :=
  ∀ limit, l.maxBytes = some limit → n ≤ limit

/-- A reader has taken some octets within its limits, and waits for more from `t` on. -/
structure Takes (l : BodyLimits) (now : Nat) (d : Delivery) (bs : Bytes) (t : Nat) (d' : Delivery) :
    Prop where
  brings : d.Brings now bs t d'
  inTime : l.InTime now t
  fits : l.Fits bs.length

/-- What a reader that counts makes of a body, at what time, and what it leaves. -/
inductive Collects (l : BodyLimits) (now : Nat) (d : Delivery) :
    Nat → Except BodyReadError Bytes → Delivery → Prop
  /-- It grows too long. -/
  | grown {bs t d' t' b d'' limit} : l.Takes now d bs t d' →
      d'.next? t = some (t', .chunk b, d'') → l.InTime now t' → l.maxBytes = some limit →
      limit < bs.length + b.length → Collects l now d t' (.error (.tooLarge limit)) d''
  /-- Nothing more comes in time. -/
  | late {bs t d' limit} : l.Takes now d bs t d' → l.timeout = some limit →
      (∀ t' a d'', d'.next? t = some (t', a, d'') → ¬ l.InTime now t') →
      Collects l now d (now + limit) (.error .timeout) (d'.waited t)
  /-- The source of the body has waited too long itself. -/
  | timedOut {bs t d' t' f d''} : l.Takes now d bs t d' →
      d'.next? t = some (t', .fault f, d'') → l.InTime now t' → f.isTimeout = true →
      Collects l now d t' (.error .timeout) d''
  /-- It breaks off for another reason. -/
  | failed {bs t d' t' f d''} : l.Takes now d bs t d' →
      d'.next? t = some (t', .fault f, d'') → l.InTime now t' → f.isTimeout = false →
      Collects l now d t' (.error (.read f)) d''
  | whole {t d' t' d''} : l.Takes now d d.octets t d' →
      d'.next? t = some (t', .finished, d'') → l.InTime now t' →
      Collects l now d t' (.ok d.octets) d''

/-- It is known beforehand that the body is too long. -/
def Refuses (l : BodyLimits) (d : Delivery) : Prop :=
  ∃ n limit, d.declared? = some n ∧ l.maxBytes = some limit ∧ limit < n

/-- What a reader makes of a body: it counts, unless too many octets are declared. -/
inductive Reads (l : BodyLimits) (now : Nat) (d : Delivery) :
    Nat → Except BodyReadError Bytes → Delivery → Prop
  | refused {n limit} : d.declared? = some n → l.maxBytes = some limit → limit < n →
      Reads l now d now (.error (.tooLarge limit)) d
  | collected {t result rest} : ¬ l.Refuses d → l.Collects now d t result rest →
      Reads l now d t result rest

theorem exceeds_eq_some {n limit : Nat} :
    l.exceeds n = some limit ↔ l.maxBytes = some limit ∧ limit < n := by
  unfold exceeds
  rw [Option.filter_eq_some_iff, decide_eq_true_eq]

theorem exceeds_eq_none {n : Nat} : l.exceeds n = none ↔ l.Fits n := by
  unfold exceeds Fits
  rw [Option.filter_eq_none_iff]
  refine forall_congr' fun limit => ?_
  rw [decide_eq_true_eq, Nat.not_lt]

/-- The deadline of a reader that began at `now`. -/
def deadline (l : BodyLimits) (now : Nat) : Option Nat := l.timeout.map (now + ·)

theorem not_inTime_iff :
    ¬ l.InTime now t ↔ ∃ limit, l.timeout = some limit ∧ now + limit < t := by
  unfold InTime
  constructor
  · intro h
    cases hlimit : l.timeout with
    | none => exact absurd (fun limit heq => by cases hlimit.symm.trans heq) h
    | some limit =>
        refine ⟨limit, rfl, Nat.lt_of_not_le fun hle => h fun limit' heq => ?_⟩
        cases hlimit.symm.trans heq
        exact hle
  · rintro ⟨limit, hlimit, hlt⟩ h
    exact Nat.not_le.mpr hlt (h limit hlimit)

theorem deadline_any : (l.deadline now).any (· < t) = true ↔ ¬ l.InTime now t := by
  unfold deadline
  rw [not_inTime_iff, Option.any_map, Option.any_eq_true]
  simp only [decide_eq_true_eq]

theorem Takes.start (l : BodyLimits) (now : Nat) (d : Delivery) : l.Takes now d [] now d where
  brings := .nothing
  inTime _ _ := Nat.le_add_right now _
  fits _ _ := Nat.zero_le _

theorem Takes.chunk (h : l.Takes now d bs t d') {t' : Nat} {b : Bytes} {d'' : Delivery}
    (hnext : d'.next? t = some (t', .chunk b, d'')) (htime : l.InTime now t')
    (hfits : l.Fits (bs.length + b.length)) : l.Takes now d (bs ++ b) t' d'' where
  brings := .chunk h.brings hnext
  inTime := htime
  fits := by rwa [List.length_append]

theorem collect_eq (deadline : Option Nat) (acc : Bytes) :
    l.collect deadline now acc d =
      match d.next? now with
      | none => deadline.map fun t => ⟨t, .error .timeout, d.waited now⟩
      | some (t, a, d') =>
          if deadline.any (· < t) then deadline.map fun t => ⟨t, .error .timeout, d.waited now⟩
          else
            match a with
            | .finished => some ⟨t, .ok acc, d'⟩
            | .fault f => some ⟨t, .error (.ofFault f), d'⟩
            | .chunk b =>
                match l.exceeds (acc.length + b.length) with
                | some limit => some ⟨t, .error (.tooLarge limit), d'⟩
                | none => l.collect deadline t (acc ++ b) d' := by
  rw [collect]
  split
  · rename_i hnext
    rw [hnext]
  · rename_i t a d' hnext
    -- The other side depends on the equation itself.
    conv =>
      rhs
      rw [hnext]
    cases a <;> rfl

/-- Something comes in time for a reader that began at `now`. -/
theorem collect_of_next {a : Delivery.Arrival} (acc : Bytes) {t' : Nat} :
    d.next? t = some (t', a, d') → l.InTime now t' →
    l.collect (l.deadline now) t acc d =
      match a with
      | .finished => some ⟨t', .ok acc, d'⟩
      | .fault f => some ⟨t', .error (.ofFault f), d'⟩
      | .chunk b =>
          match l.exceeds (acc.length + b.length) with
          | some limit => some ⟨t', .error (.tooLarge limit), d'⟩
          | none => l.collect (l.deadline now) t' (acc ++ b) d' := by
  intro hnext htime
  rw [collect_eq, hnext]
  simp only []
  rw [if_neg (mt deadline_any.mp (not_not_intro htime))]

/-- Nothing comes in time for a reader that began at `now`. -/
theorem collect_of_late (acc : Bytes)
    (hlate : ∀ t' a d', d.next? t = some (t', a, d') → ¬ l.InTime now t') :
    l.collect (l.deadline now) t acc d =
      l.timeout.map fun limit => ⟨now + limit, .error .timeout, d.waited t⟩ := by
  rw [collect_eq, deadline, Option.map_map]
  cases hnext : d.next? t with
  | none => rfl
  | some x =>
      obtain ⟨t', a, d'⟩ := x
      exact if_pos (deadline_any.mpr (hlate t' a d' hnext))

/-- A reader that has taken some octets goes on from there. -/
theorem Takes.collect_eq (h : l.Takes now d bs t d') :
    l.collect (l.deadline now) now [] d = l.collect (l.deadline now) t bs d' := by
  obtain ⟨hbrings, htime, hfits⟩ := h
  induction hbrings with
  | nothing => rfl
  | chunk hbrings hnext ih =>
      rename_i bs t d' t' b d''
      have hle := (Delivery.next?_spec hnext).1
      rw [List.length_append] at hfits
      have htime' : l.InTime now t := fun limit hlimit => Nat.le_trans hle (htime limit hlimit)
      have hfits' : l.Fits bs.length := fun limit hlimit =>
        Nat.le_trans (Nat.le_add_right _ _) (hfits limit hlimit)
      rw [ih htime' hfits', collect_of_next bs hnext htime]
      simp only [exceeds_eq_none.mpr hfits]

theorem Takes.collects_late {result : Except BodyReadError Bytes} {t' : Nat} {rest : Delivery}
    (h : l.Takes now d bs t d')
    (hlate : ∀ t' a d'', d'.next? t = some (t', a, d'') → ¬ l.InTime now t')
    (hcollect : l.collect (l.deadline now) t bs d' = some ⟨t', result, rest⟩) :
    l.Collects now d t' result rest := by
  rw [collect_of_late bs hlate] at hcollect
  obtain ⟨limit, hlimit, heq⟩ := Option.map_eq_some_iff.mp hcollect
  cases heq
  exact .late h hlimit hlate

theorem Takes.collects {result : Except BodyReadError Bytes} {t' : Nat} {rest : Delivery}
    (h : l.Takes now d bs t d')
    (hcollect : l.collect (l.deadline now) t bs d' = some ⟨t', result, rest⟩) :
    l.Collects now d t' result rest := by
  -- Every chunk that the reader takes leaves less of the body.
  induction hn : d'.size using Nat.strongRecOn generalizing bs t d' with
  | ind n ih =>
      rcases hnext : d'.next? t with _ | ⟨t₁, a, d₁⟩
      · refine h.collects_late (fun t₁ a d₁ hsome => ?_) hcollect
        cases hnext.symm.trans hsome
      by_cases htime : l.InTime now t₁
      · rw [collect_of_next bs hnext htime] at hcollect
        cases a with
        | finished =>
            cases hcollect
            obtain rfl := h.brings.eq_octets hnext
            exact .whole h hnext htime
        | fault f =>
            cases hcollect
            unfold BodyReadError.ofFault
            by_cases hf : f.isTimeout = true
            · rw [if_pos hf]
              exact .timedOut h hnext htime hf
            · rw [if_neg hf]
              exact .failed h hnext htime (Bool.eq_false_iff.mpr hf)
        | chunk b =>
            cases hexceeds : l.exceeds (bs.length + b.length) with
            | some limit =>
                simp only [hexceeds] at hcollect
                cases hcollect
                obtain ⟨hlimit, hlt⟩ := exceeds_eq_some.mp hexceeds
                exact .grown h hnext htime hlimit hlt
            | none =>
                simp only [hexceeds] at hcollect
                have hsize := Delivery.size_next? hnext (fun heq => by cases heq)
                have htakes := h.chunk hnext htime (exceeds_eq_none.mp hexceeds)
                exact ih d₁.size (hn ▸ hsize) htakes hcollect rfl
      · refine h.collects_late (fun t₁' a' d₁' hsome => ?_) hcollect
        cases hnext.symm.trans hsome
        exact htime

/-- Counting comes to nothing else, and it comes to an end in each of these ways. -/
theorem collect_iff {result : Except BodyReadError Bytes} {rest : Delivery} :
    l.collect (l.deadline now) now [] d = some ⟨t, result, rest⟩ ↔
      l.Collects now d t result rest := by
  constructor
  · exact (Takes.start l now d).collects
  · intro hcollects
    cases hcollects with
    | grown htakes hnext htime hlimit hlt =>
        rw [htakes.collect_eq, collect_of_next _ hnext htime]
        simp only [exceeds_eq_some.mpr ⟨hlimit, hlt⟩]
    | late htakes hlimit hlate =>
        rw [htakes.collect_eq, collect_of_late _ hlate, hlimit]
        rfl
    | timedOut htakes hnext htime hf =>
        rw [htakes.collect_eq, collect_of_next _ hnext htime]
        simp only [BodyReadError.ofFault, hf, if_true]
    | failed htakes hnext htime hf =>
        rw [htakes.collect_eq, collect_of_next _ hnext htime]
        simp only [BodyReadError.ofFault, hf, Bool.false_eq_true, if_false]
    | whole htakes hnext htime => rw [htakes.collect_eq, collect_of_next _ hnext htime]

theorem read_of_refused {n limit : Nat} (hn : d.declared? = some n)
    (hlimit : l.maxBytes = some limit) (hlt : limit < n) :
    l.read now d = some ⟨now, .error (.tooLarge limit), d⟩ := by
  have hexceeds : d.declared?.bind l.exceeds = some limit :=
    Option.bind_eq_some_iff.mpr ⟨n, hn, exceeds_eq_some.mpr ⟨hlimit, hlt⟩⟩
  unfold read
  rw [hexceeds]

/-- A reader that does not refuse a body counts. -/
theorem read_of_not_refused (h : ¬ l.Refuses d) :
    l.read now d = l.collect (l.deadline now) now [] d := by
  unfold read
  cases hdeclared : d.declared?.bind l.exceeds with
  | none => rfl
  | some limit =>
      obtain ⟨n, hn, hexceeds⟩ := Option.bind_eq_some_iff.mp hdeclared
      exact absurd ⟨n, limit, hn, exceeds_eq_some.mp hexceeds⟩ h

/-- Reading comes to nothing else, and it comes to an end in each of these ways. -/
theorem read_iff {result : Except BodyReadError Bytes} {rest : Delivery} :
    l.read now d = some ⟨t, result, rest⟩ ↔ l.Reads now d t result rest := by
  constructor
  · intro hread
    by_cases hrefused : l.Refuses d
    · obtain ⟨n, limit, hn, hlimit, hlt⟩ := hrefused
      cases (read_of_refused hn hlimit hlt).symm.trans hread
      exact .refused hn hlimit hlt
    · rw [read_of_not_refused hrefused] at hread
      exact .collected hrefused (collect_iff.mp hread)
  · intro hreads
    cases hreads with
    | refused hn hlimit hlt => exact read_of_refused hn hlimit hlt
    | collected hrefused hcollects =>
        rw [read_of_not_refused hrefused]
        exact collect_iff.mpr hcollects

/-- What has been read is all of the body. -/
theorem Reads.eq_octets {body : Bytes} {rest : Delivery} (h : l.Reads now d t (.ok body) rest) :
    body = d.octets := by
  cases h with
  | collected _ hcollects =>
      cases hcollects
      rfl

end BodyLimits

/-! ## Draining -/

namespace Delivery

/-- When a body that is drained from `now` on has been read up to its end or its first fault.
The deadline takes the place of what comes after it. -/
inductive Drains (deadline now : Nat) (d : Delivery) : Nat → Prop
  | ended {bs t d' t' a d''} : d.Brings now bs t d' → d'.next? t = some (t', a, d'') →
      (∀ b, a ≠ .chunk b) → t' ≤ deadline → Drains deadline now d t'
  | gaveUp {bs t d'} : d.Brings now bs t d' → t ≤ deadline →
      (∀ t' a d'', d'.next? t = some (t', a, d'') → deadline < t') → Drains deadline now d deadline

variable {deadline now t : Nat} {d d' : Delivery} {bs : Bytes}

theorem drain_of_late (hlate : ∀ t' a d', d.next? t = some (t', a, d') → deadline < t') :
    d.drain deadline t = deadline := by
  rw [drain]
  split
  · rfl
  · exact if_pos (hlate _ _ _ ‹_›)

theorem drain_of_chunk {b : Bytes} {t' : Nat} (hnext : d.next? t = some (t', .chunk b, d'))
    (htime : t' ≤ deadline) : d.drain deadline t = d'.drain deadline t' := by
  rw [drain]
  split
  · cases hnext.symm.trans ‹_›
  · cases hnext.symm.trans ‹_›
    exact if_neg (Nat.not_lt.mpr htime)

theorem drain_of_end {a : Arrival} {t' : Nat} (hnext : d.next? t = some (t', a, d'))
    (hend : ∀ b, a ≠ .chunk b) (htime : t' ≤ deadline) : d.drain deadline t = t' := by
  rw [drain]
  split
  · cases hnext.symm.trans ‹_›
  · cases hnext.symm.trans ‹_›
    rw [if_neg (Nat.not_lt.mpr htime)]
    cases a with
    | chunk b => exact absurd rfl (hend b)
    | finished => rfl
    | fault f => rfl

theorem Brings.drain_eq (h : d.Brings now bs t d') (htime : t ≤ deadline) :
    d.drain deadline now = d'.drain deadline t := by
  induction h with
  | nothing => rfl
  | chunk _ hnext ih =>
      have hle := (next?_spec hnext).1
      rw [ih (Nat.le_trans hle htime), drain_of_chunk hnext htime]

theorem Brings.drains (h : d.Brings now bs t d') (htime : t ≤ deadline) :
    d.Drains deadline now (d'.drain deadline t) := by
  -- Every chunk that is drained leaves less of the body.
  induction hn : d'.size using Nat.strongRecOn generalizing bs t d' with
  | ind n ih =>
      by_cases hlate : ∀ t' a d'', d'.next? t = some (t', a, d'') → deadline < t'
      · rw [drain_of_late hlate]
        exact .gaveUp h htime hlate
      · obtain ⟨t', a, d'', hnext, htime'⟩ : ∃ t' a d'', d'.next? t = some (t', a, d'') ∧ t' ≤ deadline := by
          simpa using hlate
        by_cases hend : ∀ b, a ≠ .chunk b
        · rw [drain_of_end hnext hend htime']
          exact .ended h hnext hend htime'
        · obtain ⟨b, rfl⟩ : ∃ b, a = .chunk b := by simpa using hend
          rw [drain_of_chunk hnext htime']
          have hsize := size_next? hnext (fun heq => by cases heq)
          exact ih d''.size (hn ▸ hsize) (.chunk h hnext) htime' rfl

theorem drain_eq_iff (hnow : now ≤ deadline) :
    d.drain deadline now = t ↔ d.Drains deadline now t := by
  constructor
  · rintro rfl
    exact Brings.nothing.drains hnow
  · intro hdrains
    cases hdrains with
    | ended hbrings hnext hend htime =>
        rw [hbrings.drain_eq (Nat.le_trans (next?_spec hnext).1 htime), drain_of_end hnext hend htime]
    | gaveUp hbrings htime hlate => rw [hbrings.drain_eq htime, drain_of_late hlate]

end Delivery

end Gateway
