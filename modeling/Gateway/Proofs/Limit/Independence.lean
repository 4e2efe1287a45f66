import Gateway.Proofs.Limit.Run
import Mathlib.Logic.Function.Basic

/-!
# Clients do not notice each other

A limiter drops full buckets, at times that depend on all its clients. Where a bucket that
is full behaves like a new one at every later time, nobody notices: every client is told
what a bucket of its own would tell it, one that is never dropped.
-/

namespace Gateway

variable {α : Type} [Amount α]

/-! ## Full buckets -/

/-- From this time on, the bucket behaves like a new one. -/
def Bucket.FullFrom (l : Limit α) (now : Nat) (b : Bucket α) : Prop :=
  ∀ later, now ≤ later → b.refill l later = .full l later

/-- The laws of a limit whose buckets hold amounts of a certain kind. -/
structure Limit.Regular (l : Limit α) (Sound : α → Prop) : Prop where
  full : ∀ now, (Bucket.full l now).FullFrom l now
  acquire : ∀ b : Bucket α, Sound b.tokens → ∀ now, Sound (b.acquire l now).2.tokens
  burst : Sound l.burst
  isFull : ∀ b : Bucket α, Sound b.tokens → ∀ now, b.isFull l now = true → b.FullFrom l now

theorem Bucket.FullFrom.mono {l : Limit α} {now later : Nat} {b : Bucket α}
    (h : b.FullFrom l now) (hle : now ≤ later) : b.FullFrom l later :=
  fun _ hlater => h _ (Nat.le_trans hle hlater)

/-- Only the refilled bucket counts. -/
theorem Bucket.acquire_congr {l : Limit α} {now : Nat} {b b' : Bucket α}
    (h : b.refill l now = b'.refill l now) : b.acquire l now = b'.acquire l now := by
  unfold acquire
  rw [h]

theorem Bucket.FullFrom.acquire_eq {l : Limit α} {now : Nat} {b : Bucket α}
    (h : b.FullFrom l now) (hfull : (Bucket.full l now).FullFrom l now) :
    b.acquire l now = (Bucket.full l now).acquire l now :=
  Bucket.acquire_congr ((h now (Nat.le_refl now)).trans (hfull now (Nat.le_refl now)).symm)

namespace Limiter

/-! ## Buckets that are never dropped -/

/-- What is told to clients that all have a bucket of their own for ever. -/
def reference (l : Limit α) (shelf : String → Option (Bucket α)) :
    List (Nat × String) → List Admission
  | [] => []
  | (now, key) :: requests =>
      let (grant, b) := ((shelf key).getD (.full l now)).acquire l now
      verdict α grant :: reference l (Function.update shelf key (some b)) requests

/-- What one bucket alone tells the only client that it has. -/
def alone (l : Limit α) (b : Option (Bucket α)) : List Nat → List Admission
  | [] => []
  | now :: times =>
      let (grant, b) := (b.getD (.full l now)).acquire l now
      verdict α grant :: alone l (some b) times

/-- The requests of the other clients do not matter. -/
theorem alone_of_reference {l : Limit α} {shelf : String → Option (Bucket α)} {rs : List Reply}
    (h : rs.map (·.answer) = reference l shelf (rs.map fun r => (r.time, r.client))) (key : String) :
    (rs.filter (·.client = key)).map (·.answer) =
      alone l (shelf key) ((rs.filter (·.client = key)).map (·.time)) := by
  induction rs generalizing shelf with
  | nil => rfl
  | cons r rest ih =>
      rw [List.map_cons, List.map_cons, reference, List.cons.injEq] at h
      have hih := ih h.2
      by_cases hkey : r.client = key
      · subst hkey
        rw [Function.update_self] at hih
        rw [List.filter_cons_of_pos (by simp), List.map_cons, List.map_cons, alone, h.1, hih]
      · rw [Function.update_of_ne (Ne.symm hkey)] at hih
        rw [List.filter_cons_of_neg (by simpa using hkey), hih]

/-! ## A limiter and its reference -/

/-- The limiter has the buckets of the shelf, except for some that have filled up. -/
structure Mirrors (limit : Limit α) (Sound : α → Prop) (shelf : String → Option (Bucket α))
    (w : Watch α) : Prop where
  limit_eq : w.limiter.limit = limit
  nodup : w.limiter.clients.Nodup
  sound : ∀ key b, shelf key = some b → Sound b.tokens
  bucket : ∀ key, w.limiter.bucket? key = shelf key ∨
    (w.limiter.bucket? key = none ∧ ∀ b, shelf key = some b → b.FullFrom limit w.now)

variable {limit : Limit α} {Sound : α → Prop} {shelf : String → Option (Bucket α)} {ρ : Type}

/-- All buckets hold amounts of the kind. -/
theorem Mirrors.sound_of_mem {w : Watch α} (h : Mirrors limit Sound shelf w)
    {e : String × Bucket α} (he : e ∈ w.limiter.buckets) : Sound e.2.tokens := by
  have hfound := bucket?_of_mem h.nodup he
  rcases h.bucket e.1 with heq | ⟨hnone, -⟩
  · exact h.sound e.1 e.2 (heq.symm.trans hfound)
  · exact absurd (hnone.symm.trans hfound) (Option.some_ne_none _).symm

theorem Mirrors.sound_getD {w : Watch α} (h : Mirrors limit Sound shelf w)
    (hburst : Sound limit.burst) (key : String) (now : Nat) :
    Sound ((w.limiter.bucket? key).getD (.full limit now)).tokens := by
  cases hb : w.limiter.bucket? key with
  | none => exact hburst
  | some b =>
      rcases h.bucket key with heq | ⟨hnone, -⟩
      · exact h.sound key b (heq.symm.trans hb)
      · exact absurd (hnone.symm.trans hb) (Option.some_ne_none _).symm

theorem Mirrors.sweep {w : Watch α} (h : Mirrors limit Sound shelf w)
    (hregular : limit.Regular Sound) :
    Mirrors limit Sound shelf { w with limiter := w.limiter.sweep w.now } := by
  refine ⟨h.limit_eq, nodup_sweep h.nodup, h.sound, fun key => ?_⟩
  rw [bucket?_sweep h.nodup, h.limit_eq]
  rcases h.bucket key with heq | ⟨hnone, hfull⟩
  · rw [heq]
    cases hb : shelf key with
    | none => exact .inl rfl
    | some b =>
        by_cases hfull : b.isFull limit w.now
        · right
          refine ⟨by simp [Option.filter, hfull], ?_⟩
          rintro _ ⟨rfl⟩
          exact hregular.isFull b (h.sound key b hb) w.now hfull
        · left
          simp [Option.filter, hfull]
  · right
    rw [hnone]
    exact ⟨rfl, hfull⟩

theorem Mirrors.wait {w : Watch α} (h : Mirrors limit Sound shelf w) (nanos : Nat) :
    Mirrors limit Sound shelf { w with now := w.now + nanos } := by
  refine ⟨h.limit_eq, h.nodup, h.sound, fun key => ?_⟩
  refine (h.bucket key).imp_right fun ⟨hnone, hfull⟩ => ⟨hnone, fun b hb => ?_⟩
  exact (hfull b hb).mono (Nat.le_add_right _ _)

/-- A client is told the same by the limiter and by its bucket on the shelf. -/
theorem Mirrors.served_eq {w : Watch α} (h : Mirrors limit Sound shelf w)
    (hregular : limit.Regular Sound) (key : String) :
    w.limiter.served w.now key = ((shelf key).getD (.full limit w.now)).acquire limit w.now := by
  unfold served
  rw [h.limit_eq]
  rcases h.bucket key with heq | ⟨hnone, hfull⟩
  · rw [heq]
  · rw [hnone]
    -- A client without a bucket has never had one, or its bucket was full.
    cases hb : shelf key with
    | none => rfl
    | some b => exact ((hfull b hb).acquire_eq (hregular.full w.now)).symm

theorem Mirrors.store {w : Watch α} {key : String} {b : Bucket α} {l : Limiter α}
    (h : Mirrors limit Sound shelf w) (hlimit : l.limit = w.limiter.limit)
    (hbuckets : l.buckets = Limiter.store key b w.limiter.buckets) (hsound : Sound b.tokens) :
    Mirrors limit Sound (Function.update shelf key (some b)) { w with limiter := l } := by
  refine ⟨hlimit.trans h.limit_eq, ?_, fun other b' hb' => ?_, fun other => ?_⟩
  · unfold clients
    rw [hbuckets]
    exact nodup_store h.nodup
  · by_cases hother : other = key
    · rw [hother, Function.update_self, Option.some_inj] at hb'
      exact hb' ▸ hsound
    · rw [Function.update_of_ne hother] at hb'
      exact h.sound other b' hb'
  · have hbucket : l.bucket? other = if other = key then some b else w.limiter.bucket? other := by
      unfold bucket?
      rw [hbuckets, find?_store]
    rw [hbucket]
    by_cases hother : other = key
    · rw [if_pos hother, hother, Function.update_self]
      exact .inl rfl
    · rw [if_neg hother, Function.update_of_ne hother]
      exact h.bucket other

theorem Mirrors.request {w : Watch α} (h : Mirrors limit Sound shelf w)
    (hregular : limit.Regular Sound) (key : String) :
    Mirrors limit Sound (Function.update shelf key (some (w.limiter.served w.now key).2))
      { w with limiter := (w.limiter.request w.now key).2 } := by
  have hsound : Sound (w.limiter.served w.now key).2.tokens := by
    rw [h.served_eq hregular key]
    cases hb : shelf key with
    | none => exact hregular.acquire _ hregular.burst w.now
    | some b => exact hregular.acquire b (h.sound key b hb) w.now
  obtain ⟨stored, hlimit, hbuckets, heq | heq⟩ := request_limiter w.now key w.limiter
  · rw [heq]
    exact h.store hlimit hbuckets hsound
  · rw [heq]
    exact (h.store hlimit hbuckets hsound).sweep hregular

/-- An event changes at most the bucket of the client that it is a request of. -/
theorem Mirrors.step {w : Watch α} (h : Mirrors limit Sound shelf w)
    (hregular : limit.Regular Sound) (key : ρ → String) (e : Event ρ) :
    ∃ shelf', Mirrors limit Sound shelf' (w.step key e) ∧
      ∀ client, (∀ r, e = .request r → key r ≠ client) → shelf' client = shelf client := by
  cases e with
  | request r =>
      exact ⟨_, h.request hregular (key r), fun client hother =>
        Function.update_of_ne (hother r rfl).symm _ _⟩
  | sweep => exact ⟨shelf, h.sweep hregular, fun _ _ => rfl⟩
  | wait nanos => exact ⟨shelf, h.wait nanos, fun _ _ => rfl⟩

theorem Mirrors.run (hregular : limit.Regular Sound) (key : ρ → String) (es : List (Event ρ))
    {w : Watch α} (h : Mirrors limit Sound shelf w) :
    ∃ shelf', Mirrors limit Sound shelf' (w.run key es) ∧
      ∀ client, (∀ r, .request r ∈ es → key r ≠ client) → shelf' client = shelf client := by
  induction es generalizing w shelf with
  | nil => exact ⟨shelf, h, fun _ _ => rfl⟩
  | cons e es ih =>
      obtain ⟨shelf', hstep, hsame⟩ := h.step hregular key e
      obtain ⟨shelf'', hrun, hsame'⟩ := ih hstep
      refine ⟨shelf'', hrun, fun client hother => ?_⟩
      rw [hsame' client fun r hr => hother r (List.mem_cons_of_mem e hr)]
      exact hsame client fun r hr => hother r (hr ▸ List.mem_cons_self)

/-- Every reply is that of a bucket with amounts of the kind. -/
theorem Mirrors.exists_bucket {w : Watch α} (h : Mirrors limit Sound shelf w)
    (hregular : limit.Regular Sound) (key : ρ → String) (es : List (Event ρ)) :
    ∀ r ∈ w.replies key es, ∃ b : Bucket α, Sound b.tokens ∧
      r.answer = verdict α (b.acquire limit r.time).1 := by
  induction es generalizing w shelf with
  | nil => exact nofun
  | cons e es ih =>
      obtain ⟨shelf', hstep, -⟩ := h.step hregular key e
      cases e with
      | request r =>
          refine List.forall_mem_cons.mpr ⟨⟨_, h.sound_getD hregular.burst (key r) w.now, ?_⟩,
            ih hstep⟩
          have hanswer := request_answer w.now (key r) w.limiter
          rw [served, h.limit_eq] at hanswer
          exact hanswer
      | sweep => exact ih hstep
      | wait nanos => exact ih hstep

/-- In the course of any events, the limiter and its reference say the same. -/
theorem Mirrors.replies_eq (hregular : limit.Regular Sound) (key : ρ → String) {w : Watch α}
    (h : Mirrors limit Sound shelf w) (es : List (Event ρ)) :
    (w.replies key es).map (·.answer) =
      reference limit shelf ((w.replies key es).map fun r => (r.time, r.client)) := by
  induction es generalizing w shelf with
  | nil => rfl
  | cons e es ih =>
      cases e with
      | request r =>
          have hih := ih (h.request hregular (key r))
          have hserved := h.served_eq hregular (key r)
          show (w.limiter.request w.now (key r)).1 :: _ = _
          rw [request_answer]
          show _ = reference limit shelf ((w.now, key r) :: _)
          rw [reference, ← hserved]
          exact congrArg _ hih
      | sweep => exact ih (h.sweep hregular)
      | wait nanos => exact ih (h.wait nanos)

/-- At the beginning there are no buckets. -/
theorem mirrors_ofLimit (limit : Limit α) (Sound : α → Prop) (now : Nat) :
    Mirrors limit Sound (fun _ => none) ⟨.ofLimit limit, now⟩ where
  limit_eq := rfl
  nodup := List.nodup_nil
  sound _ _ hb := nomatch hb
  bucket _ := .inl rfl

/-! ## Independence -/

/-- What clients are told in the course of some events is what buckets tell them that are
never dropped, and each client is told what its own requests alone would have it told. -/
structure Independent (limit : Limit α) (key : ρ → String) (start : Nat) (es : List (Event ρ))
    (replies : List Reply) : Prop where
  scheduled : replies.map (fun r => (r.time, r.client)) = schedule key start es
  eq_reference : replies.map (·.answer) = reference limit (fun _ => none) (schedule key start es)
  eq_alone : ∀ client, (replies.filter (·.client = client)).map (·.answer) =
    alone limit none (((schedule key start es).filter (·.2 = client)).map (·.1))

/-- Where full buckets stay full, no client notices the others or a sweep. -/
theorem independent_of_regular (hregular : limit.Regular Sound) (key : ρ → String) (start : Nat)
    (es : List (Event ρ)) :
    Independent limit key start es ((Watch.mk (ofLimit limit) start).replies key es) := by
  have hscheduled := (Watch.mk (ofLimit limit) start).schedule_replies key es
  have hreference := (mirrors_ofLimit limit Sound start).replies_eq hregular key es
  refine ⟨hscheduled, hscheduled ▸ hreference, fun client => ?_⟩
  rw [alone_of_reference hreference client, ← hscheduled, List.filter_map, List.map_map]
  rfl

end Limiter

end Gateway
