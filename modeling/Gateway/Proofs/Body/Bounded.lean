import Gateway.Proofs.Body.Pieces
import Mathlib.Logic.Relation

/-!
# Bounded reading

A reader never has more octets in its buffer than its limit. A length that is declared
beforehand spares it the reading of what is too long: of a body that breaks off it says then
that it is too long, where counting would have come to the fault, and of any other one the
same. A deadline changes nothing as long as the reading is over before.
-/

namespace Gateway.BodyLimits

variable {l : BodyLimits} {now t : Nat} {d d' : Delivery}

/-! ## A reader at work -/

/-- A reader between two pieces: since when it waits, what is in its buffer, and what is left of
the body. -/
structure Stage where
  time : Nat
  buffer : Bytes
  rest : Delivery

/-- A reader takes one piece more: it comes to an end, which may be to wait for ever, or goes on. -/
def advance (l : BodyLimits) (deadline : Option Nat) (s : Stage) :
    Option (Reading (Except BodyReadError Bytes)) ⊕ Stage :=
  match s.rest.next? s.time with
  | none => .inl (deadline.map fun t => ⟨t, .error .timeout, s.rest.waited s.time⟩)
  | some (t, a, d) =>
      if deadline.any (· < t) then
        .inl (deadline.map fun t => ⟨t, .error .timeout, s.rest.waited s.time⟩)
      else
        match a with
        | .finished => .inl (some ⟨t, .ok s.buffer, d⟩)
        | .fault f => .inl (some ⟨t, .error (.ofFault f), d⟩)
        | .chunk b =>
            match l.exceeds (s.buffer.length + b.length) with
            | some limit => .inl (some ⟨t, .error (.tooLarge limit), d⟩)
            | none => .inr ⟨t, s.buffer ++ b, d⟩

/-- Collecting a body is to take one piece after another. -/
theorem collect_eq_advance (l : BodyLimits) (deadline : Option Nat) (s : Stage) :
    l.collect deadline s.time s.buffer s.rest =
      (l.advance deadline s).elim id fun s' => l.collect deadline s'.time s'.buffer s'.rest := by
  rw [collect_eq, advance]
  cases s.rest.next? s.time with
  | none => rfl
  | some x =>
      obtain ⟨t, a, d⟩ := x
      by_cases hlate : deadline.any (· < t) = true
      · simp only [if_pos hlate]
        rfl
      · simp only [if_neg hlate]
        cases a with
        | finished => rfl
        | fault f => rfl
        | chunk b =>
            simp only []
            cases l.exceeds (s.buffer.length + b.length) <;> rfl

/-- A reader that began with a body at `now` comes to some stage. -/
def Reaches (l : BodyLimits) (now : Nat) (d : Delivery) : Stage → Prop :=
  Relation.ReflTransGen (fun s s' => l.advance (l.deadline now) s = .inr s') ⟨now, [], d⟩

theorem advance_fits {deadline : Option Nat} {s s' : Stage}
    (h : l.advance deadline s = .inr s') : l.Fits s'.buffer.length := by
  unfold advance at h
  split at h
  · cases h
  · split at h
    · cases h
    · split at h
      · cases h
      · cases h
      · split at h
        · cases h
        · rename_i hexceeds
          cases h
          rw [List.length_append]
          exact exceeds_eq_none.mp hexceeds

/-- The buffer never holds more than the limit. -/
theorem Reaches.fits {s : Stage} (h : l.Reaches now d s) : l.Fits s.buffer.length := by
  induction h with
  | refl => exact fun _ _ => Nat.zero_le _
  | tail _ hadvance _ => exact advance_fits hadvance

/-! ## Deadlines -/

theorem Takes.unhurried {bs : Bytes} (h : l.Takes now d bs t d') :
    l.unhurried.Takes now d bs t d' where
  brings := h.brings
  inTime := inTime_of_timeout rfl _ _
  fits := h.fits

theorem Takes.hurried {bs : Bytes} (h : l.unhurried.Takes now d bs t d') (htime : l.InTime now t) :
    l.Takes now d bs t d' where
  brings := h.brings
  inTime := htime
  fits := h.fits

variable {result : Except BodyReadError Bytes} {left : Delivery}

theorem Collects.unhurried_or (h : l.Collects now d t result left) :
    l.unhurried.Collects now d t result left ∨
      ∃ limit, l.timeout = some limit ∧ t = now + limit ∧ result = .error .timeout := by
  have htime : ∀ t, l.unhurried.InTime now t := inTime_of_timeout rfl now
  cases h with
  | grown htakes hnext _ hlimit hlt =>
      exact Or.inl (.grown htakes.unhurried hnext (htime _) hlimit hlt)
  | late _ hlimit _ => exact Or.inr ⟨_, hlimit, rfl, rfl⟩
  | timedOut htakes hnext _ hf => exact Or.inl (.timedOut htakes.unhurried hnext (htime _) hf)
  | failed htakes hnext _ hf => exact Or.inl (.failed htakes.unhurried hnext (htime _) hf)
  | whole htakes hnext _ => exact Or.inl (.whole htakes.unhurried hnext (htime _))

/-- A reading is over at its deadline, or it is as without one. -/
theorem Reads.unhurried_or (h : l.Reads now d t result left) :
    l.unhurried.Reads now d t result left ∨
      ∃ limit, l.timeout = some limit ∧ t = now + limit ∧ result = .error .timeout := by
  cases h with
  | refused hn hlimit hlt => exact Or.inl (.refused hn hlimit hlt)
  | collected hrefused hcollects => exact hcollects.unhurried_or.imp_left (.collected hrefused)

theorem Collects.hurried (h : l.unhurried.Collects now d t result left) (htime : l.InTime now t) :
    l.Collects now d t result left := by
  have hearlier : ∀ {u : Nat} {a : Delivery.Arrival} {d₁ d₂ : Delivery},
      d₁.next? u = some (t, a, d₂) → l.InTime now u := by
    intro u a d₁ d₂ hnext limit hlimit
    exact Nat.le_trans (Delivery.next?_spec hnext).1 (htime limit hlimit)
  cases h with
  | grown htakes hnext _ hlimit hlt =>
      exact .grown (htakes.hurried (hearlier hnext)) hnext htime hlimit hlt
  | late _ hlimit _ => cases hlimit
  | timedOut htakes hnext _ hf => exact .timedOut (htakes.hurried (hearlier hnext)) hnext htime hf
  | failed htakes hnext _ hf => exact .failed (htakes.hurried (hearlier hnext)) hnext htime hf
  | whole htakes hnext _ => exact .whole (htakes.hurried (hearlier hnext)) hnext htime

/-- A reading that is over in time without a deadline is the same with it. -/
theorem Reads.hurried (h : l.unhurried.Reads now d t result left) (htime : l.InTime now t) :
    l.Reads now d t result left := by
  cases h with
  | refused hn hlimit hlt => exact .refused hn hlimit hlt
  | collected hrefused hcollects => exact .collected hrefused (hcollects.hurried htime)

/-- No reading is over before it begins, nor later than its deadline. -/
theorem Reads.inTime (h : l.Reads now d t result left) : l.InTime now t := by
  cases h with
  | refused _ _ _ => exact fun _ _ => Nat.le_add_right now _
  | collected _ hcollects =>
      cases hcollects with
      | grown _ _ htime _ _ => exact htime
      | late _ hlimit _ =>
          intro limit heq
          obtain rfl := Option.some.inj (hlimit.symm.trans heq)
          exact Nat.le_refl _
      | timedOut _ _ htime _ => exact htime
      | failed _ _ htime _ => exact htime
      | whole _ _ htime => exact htime

/-- A reader with a deadline comes to an end. -/
theorem exists_collect (l : BodyLimits) (deadline now : Nat) (acc : Bytes) (d : Delivery) :
    ∃ r, l.collect (some deadline) now acc d = some r := by
  -- Every chunk that the reader takes leaves less of the body.
  induction hn : d.size using Nat.strongRecOn generalizing now acc d with
  | ind n ih =>
      rw [collect_eq]
      cases hnext : d.next? now with
      | none => exact ⟨_, rfl⟩
      | some x =>
          obtain ⟨t, a, d'⟩ := x
          by_cases hlate : (some deadline).any (· < t) = true
          · simp only [if_pos hlate]
            exact ⟨_, rfl⟩
          · simp only [if_neg hlate]
            cases a with
            | finished => exact ⟨_, rfl⟩
            | fault f => exact ⟨_, rfl⟩
            | chunk b =>
                simp only []
                cases l.exceeds (acc.length + b.length) with
                | some limit => exact ⟨_, rfl⟩
                | none =>
                    have hsize := Delivery.size_next? hnext (fun heq => by cases heq)
                    exact ih d'.size (hn ▸ hsize) t (acc ++ b) d' rfl

theorem exists_read {limit : Nat} (hlimit : l.timeout = some limit) (now : Nat) (d : Delivery) :
    ∃ r, l.read now d = some r := by
  unfold read
  cases d.declared?.bind l.exceeds with
  | some limit => exact ⟨_, rfl⟩
  | none =>
      rw [hlimit]
      exact exists_collect l (now + limit) now [] d

/-! ## All of it -/

/-- What a reader with some limits makes of a body when it begins at `now`. -/
structure Bounded (l : BodyLimits) (now : Nat) (d : Delivery) : Prop where
  /-- Without a deadline, the body is read if it ends without a fault and is not too long, and
  what is read are all of its chunks. -/
  ok_iff : ∀ b, (∃ t left, l.unhurried.read now d = some ⟨t, .ok b, left⟩) ↔
    ∃ chunks : List Bytes, d.pieces = chunks.map .data ∧ b = chunks.flatten ∧ l.Fits b.length
  /-- It is too long if too many octets are declared, or come before anything goes wrong. -/
  tooLarge_iff : ∀ limit,
    (∃ t left, l.unhurried.read now d = some ⟨t, .error (.tooLarge limit), left⟩) ↔
      l.maxBytes = some limit ∧ ((∃ n, d.declared? = some n ∧ limit < n) ∨
        ∃ (chunks : List Bytes) (ps : List BodyPiece),
          d.pieces = chunks.map .data ++ ps ∧ limit < chunks.flatten.length)
  /-- Any other error is the first fault, behind chunks that are not too long. -/
  fault_iff : ∀ e, (∀ limit, e ≠ .tooLarge limit) →
    ((∃ t left, l.unhurried.read now d = some ⟨t, .error e, left⟩) ↔
      ¬ l.Refuses d ∧ ∃ (chunks : List Bytes) (f : BodyFault) (ps : List BodyPiece),
        d.pieces = chunks.map .data ++ .fault f :: ps ∧ l.Fits chunks.flatten.length ∧
          e = .ofFault f)
  /-- The reader has no end exactly if the body stalls before. -/
  hangs_iff : l.unhurried.read now d = none ↔
    ¬ l.Refuses d ∧ ∃ (chunks : List Bytes) (ps : List BodyPiece),
      d.pieces = chunks.map .data ++ .stall :: ps ∧ l.Fits chunks.flatten.length
  /-- A body that ends has brought what was declared for it. -/
  declared_eq : ∀ n (chunks : List Bytes), d.declared? = some n → d.pieces = chunks.map .data →
    chunks.flatten.length = n
  /-- Where all comes that is declared, a body is too long exactly if too many octets come before
  anything goes wrong, -/
  counted_iff : d.AsDeclared → ∀ limit,
    ((∃ t left, l.unhurried.read now d = some ⟨t, .error (.tooLarge limit), left⟩) ↔
      l.maxBytes = some limit ∧ ∃ (chunks : List Bytes) (ps : List BodyPiece),
        d.pieces = chunks.map .data ++ ps ∧ limit < chunks.flatten.length)
  /-- and to look at the declared length first tells what counting tells. -/
  checked : d.AsDeclared →
    (l.unhurried.read now d).map (·.result) = (l.unhurried.collect none now [] d).map (·.result)
  /-- So it does with any other body, unless too much is declared of it and it breaks off or
  stalls before too much has come. -/
  checked_iff :
    (l.unhurried.read now d).map (·.result) =
        (l.unhurried.collect none now [] d).map (·.result) ↔
      ¬ (l.Refuses d ∧ l.BreaksOff d)
  /-- A reader that fails leaves all of a body that it has refused, and otherwise the pieces
  behind the one at which it fails. -/
  left : ∀ t e left, l.unhurried.read now d = some ⟨t, .error e, left⟩ →
    l.Refuses d ∧ left = d ∨
    ¬ l.Refuses d ∧ ∃ (chunks : List Bytes) (last : BodyPiece),
      d.pieces = chunks.map .data ++ last :: left.pieces ∧ l.Fits chunks.flatten.length ∧
        l.FailsAt chunks.flatten.length last e
  /-- A reader goes from stage to stage, -/
  staged : ∀ s : Stage, l.collect (l.deadline now) s.time s.buffer s.rest =
    (l.advance (l.deadline now) s).elim id fun s' =>
      l.collect (l.deadline now) s'.time s'.buffer s'.rest
  /-- and at none of them there is more than the limit in its buffer. -/
  buffered : ∀ s, l.Reaches now d s → l.Fits s.buffer.length
  /-- A reader with a deadline comes to an end, at the deadline at the latest. -/
  punctual : ∀ limit, l.timeout = some limit →
    ∃ r, l.read now d = some r ∧ r.time ≤ now + limit
  /-- Before the deadline, everything is as without it. -/
  same_iff : ∀ limit, l.timeout = some limit → ∀ r, r.time < now + limit →
    (l.read now d = some r ↔ l.unhurried.read now d = some r)
  /-- Who is not ready at the deadline is told so. -/
  late : ∀ limit, l.timeout = some limit →
    (∀ r, l.unhurried.read now d = some r → now + limit < r.time) →
    ∃ r, l.read now d = some r ∧ r.time = now + limit ∧ r.result = .error .timeout

/-- Whatever its limits are and however the body comes, a reader keeps to them exactly. -/
theorem bounded_read (l : BodyLimits) (now : Nat) (d : Delivery) : l.Bounded now d where
  ok_iff b := read_ok_iff (l := l.unhurried) rfl b
  tooLarge_iff limit := read_tooLarge_iff (l := l.unhurried) rfl limit
  fault_iff _ he := read_fault_iff (l := l.unhurried) rfl he
  hangs_iff := read_eq_none_iff (l := l.unhurried) rfl
  declared_eq _ _ := Delivery.length_of_declared
  counted_iff hdeclared limit :=
    read_tooLarge_iff_of_asDeclared (l := l.unhurried) rfl hdeclared limit
  checked hdeclared := (read_eq_collect_iff (l := l.unhurried) rfl now d).mpr
    fun hbroken => hbroken.2.not_asDeclared hbroken.1 hdeclared
  checked_iff := read_eq_collect_iff (l := l.unhurried) rfl now d
  left := by
    intro t e left hread
    rcases left_of_read (l := l.unhurried) rfl hread with hrefused | ⟨hbegun, chunks, last, hleft⟩
    · exact Or.inl hrefused
    · obtain ⟨hpieces, hfits, hfails⟩ := hleft
      exact Or.inr ⟨hbegun, chunks, last, hpieces, hfits, hfails.of_unhurried⟩
  staged := collect_eq_advance l (l.deadline now)
  buffered _ hreaches := hreaches.fits
  punctual := by
    intro limit hlimit
    obtain ⟨⟨t, result, left⟩, hread⟩ := exists_read hlimit now d
    exact ⟨_, hread, (read_iff.mp hread).inTime limit hlimit⟩
  same_iff := by
    rintro limit hlimit ⟨t, result, left⟩ hlt
    rw [read_iff, read_iff]
    constructor
    · intro hreads
      rcases hreads.unhurried_or with hreads | ⟨limit', hlimit', rfl, -⟩
      · exact hreads
      · obtain rfl := Option.some.inj (hlimit.symm.trans hlimit')
        exact absurd hlt (Nat.lt_irrefl _)
    · intro hreads
      refine hreads.hurried fun limit' hlimit' => ?_
      obtain rfl := Option.some.inj (hlimit.symm.trans hlimit')
      exact Nat.le_of_lt hlt
  late := by
    intro limit hlimit hlate
    obtain ⟨⟨t, result, left⟩, hread⟩ := exists_read hlimit now d
    have hreads := read_iff.mp hread
    rcases hreads.unhurried_or with hsame | ⟨limit', hlimit', ht, hresult⟩
    · have hlt := hlate _ (read_iff.mpr hsame)
      exact absurd (hreads.inTime limit hlimit) (Nat.not_le.mpr hlt)
    · obtain rfl := Option.some.inj (hlimit.symm.trans hlimit')
      exact ⟨_, hread, ht, hresult⟩

/-- Ten octets are declared, of which two come before the sender breaks off. -/
def torn : Delivery :=
  .sent [⟨0, .data [1, 2]⟩, ⟨0, .fault .aborted⟩] 0 0 (some 10) (by
    rintro n ⟨⟩
    exact ⟨by decide, trivial⟩)

example : let l : BodyLimits := { maxBytes := some 4 }
    (l.read 0 torn).map (·.result) = some (.error (.tooLarge 4)) ∧
      (l.collect none 0 [] torn).map (·.result) = some (.error (.read .aborted)) := by
  cbv

end Gateway.BodyLimits
