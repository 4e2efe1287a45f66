import Gateway.Limit.Limiter
import Gateway.Proofs.History

/-!
# Limiters in the course of time

A limiter keeps at most one bucket for a client. A request changes the bucket of its
client alone, and a sweep drops the buckets that are full.
-/

namespace Gateway

/-! ## Requests of one bucket -/

namespace Bucket

variable {α : Type} [Amount α] {l : Limit α} {now : Nat} {b : Bucket α}

/-- The seconds until there is a whole token. -/
def shortage (l : Limit α) (b : Bucket α) : α :=
  Amount.div (Amount.sub one b.tokens) l.rate

theorem acquire_token (h : Amount.atMost one (b.refill l now).tokens = true) :
    b.acquire l now = (.token, ⟨Amount.sub (b.refill l now).tokens one, now⟩) := by
  unfold acquire
  rw [if_pos h]
  rfl

/-- A refused request leaves the bucket as it was, but refilled. -/
theorem acquire_refused (h : Amount.atMost one (b.refill l now).tokens = false) :
    b.acquire l now =
      ((Amount.wait? ((b.refill l now).shortage l)).elim .undefined .wait, b.refill l now) := by
  unfold acquire shortage
  rw [if_neg (h ▸ Bool.false_ne_true)]
  cases Amount.wait? (Amount.div (Amount.sub one (b.refill l now).tokens) l.rate) <;> rfl

theorem acquire_fst_eq_token_iff :
    (b.acquire l now).1 = .token ↔ Amount.atMost one (b.refill l now).tokens = true := by
  cases h : Amount.atMost one (b.refill l now).tokens with
  | true => simp [acquire_token h]
  | false =>
      rw [acquire_refused h]
      cases Amount.wait? ((b.refill l now).shortage l) <;> simp

end Bucket

namespace Limiter

variable {α : Type} [Amount α] {ρ : Type}

/-! ## Buckets by client -/

def clients (l : Limiter α) : List String :=
  l.buckets.map (·.1)

omit [Amount α] in
theorem find?_store (key other : String) (b : Bucket α) (entries : List (String × Bucket α)) :
    ((store key b entries).find? (·.1 = other)).map (·.2) =
      if other = key then some b else (entries.find? (·.1 = other)).map (·.2) := by
  induction entries with
  | nil =>
      by_cases hkey : other = key
      · simp [store, hkey]
      · simp [store, hkey, Ne.symm hkey]
  | cons entry rest ih =>
      obtain ⟨k, old⟩ := entry
      unfold store
      by_cases hk : k = key
      · rw [if_pos hk]
        by_cases hkey : other = key
        · simp [hkey]
        · have hne : k ≠ other := fun h => hkey (h.symm.trans hk)
          simp [hkey, Ne.symm hkey, hne]
      · rw [if_neg hk]
        by_cases hother : k = other
        · have hkey : other ≠ key := fun h => hk (hother.trans h)
          simp [hother, hkey]
        · simp only [List.find?_cons, hother, decide_false]
          exact ih

omit [Amount α] in
theorem map_store (key : String) (b : Bucket α) (entries : List (String × Bucket α)) :
    (store key b entries).map (·.1) =
      if key ∈ entries.map (·.1) then entries.map (·.1) else entries.map (·.1) ++ [key] := by
  induction entries with
  | nil => rfl
  | cons entry rest ih =>
      obtain ⟨k, old⟩ := entry
      unfold store
      by_cases hk : k = key
      · simp [hk]
      · rw [if_neg hk, List.map_cons, ih]
        by_cases hmem : key ∈ rest.map (·.1)
        · simp [hmem]
        · simp [hmem, Ne.symm hk]

omit [Amount α] in
theorem mem_store {key : String} {b : Bucket α} {entries : List (String × Bucket α)}
    {e : String × Bucket α} (h : e ∈ store key b entries) : e = (key, b) ∨ e ∈ entries := by
  induction entries with
  | nil => exact .inl (List.mem_singleton.mp h)
  | cons entry rest ih =>
      obtain ⟨k, old⟩ := entry
      unfold store at h
      split at h
      · rcases List.mem_cons.mp h with rfl | hrest
        · exact .inl rfl
        · exact .inr (List.mem_cons_of_mem _ hrest)
      · rcases List.mem_cons.mp h with rfl | hstored
        · exact .inr List.mem_cons_self
        · exact (ih hstored).imp_right (List.mem_cons_of_mem _)

omit [Amount α] in
theorem length_store (key : String) (b : Bucket α) (entries : List (String × Bucket α)) :
    (store key b entries).length =
      if key ∈ entries.map (·.1) then entries.length else entries.length + 1 := by
  have hlength := congrArg List.length (map_store key b entries)
  rw [List.length_map] at hlength
  rw [hlength]
  split <;> simp

omit [Amount α] in
theorem nodup_store {key : String} {b : Bucket α} {entries : List (String × Bucket α)}
    (h : (entries.map (·.1)).Nodup) : ((store key b entries).map (·.1)).Nodup := by
  rw [map_store]
  split_ifs with hmem
  · exact h
  · exact h.append (List.nodup_singleton key) (by simpa using hmem)

theorem nodup_sweep {l : Limiter α} {now : Nat} (h : l.clients.Nodup) :
    (l.sweep now).clients.Nodup :=
  h.sublist (List.filter_sublist.map _)

omit [Amount α] in
/-- If names are unique, the entry that is found is the only one that counts. -/
theorem find?_filter {entries : List (String × Bucket α)} (h : (entries.map (·.1)).Nodup)
    (key : String) (keep : Bucket α → Bool) :
    ((entries.filter fun e => keep e.2).find? (·.1 = key)).map (·.2) =
      ((entries.find? (·.1 = key)).map (·.2)).filter keep := by
  induction entries with
  | nil => rfl
  | cons entry rest ih =>
      obtain ⟨k, b⟩ := entry
      rw [List.map_cons, List.nodup_cons] at h
      have hih := ih h.2
      by_cases hk : k = key
      · subst hk
        -- No other entry has this name, so none is found once this one is dropped.
        have hnone : rest.find? (·.1 = k) = none := by
          rw [List.find?_eq_none]
          intro e he
          have hne : e.1 ≠ k := fun heq => h.1 (heq ▸ List.mem_map.mpr ⟨e, he, rfl⟩)
          simpa using hne
        rw [hnone] at hih
        cases hkeep : keep b with
        | true => simp [hkeep, Option.filter]
        | false =>
            rw [List.filter_cons_of_neg (by simp [hkeep]), hih]
            simp [hkeep, Option.filter]
      · cases hkeep : keep b with
        | true => simpa [hkeep, hk] using hih
        | false => simpa [hkeep, hk] using hih

omit [Amount α] in
theorem bucket?_of_mem {l : Limiter α} (h : l.clients.Nodup) {e : String × Bucket α}
    (hmem : e ∈ l.buckets) : l.bucket? e.1 = some e.2 := by
  unfold bucket?
  rw [(find?_key_iff h e.1 e).mpr ⟨hmem, rfl⟩]
  rfl

theorem bucket?_sweep {l : Limiter α} (h : l.clients.Nodup) (now : Nat) (key : String) :
    (l.sweep now).bucket? key = (l.bucket? key).filter fun b => !b.isFull l.limit now :=
  find?_filter h key fun b => !b.isFull l.limit now

/-! ## Requests -/

/-- What the bucket of a client has for a request, and the bucket afterwards. -/
def served (now : Nat) (key : String) (l : Limiter α) : Grant × Bucket α :=
  ((l.bucket? key).getD (.full l.limit now)).acquire l.limit now

theorem request_eq (now : Nat) (key : String) (l : Limiter α) :
    l.request now key =
      match (l.served now key).1 with
      | .undefined => (.undefined, { l with buckets := store key (l.served now key).2 l.buckets })
      | g =>
          let counted :=
            { l with
              buckets := store key (l.served now key).2 l.buckets,
              requests := l.requests + 1 }
          (verdict α g,
            if l.requests % sweepEvery = sweepEvery - 1 then counted.sweep now else counted) :=
  rfl

theorem request_answer (now : Nat) (key : String) (l : Limiter α) :
    (l.request now key).1 = verdict α (l.served now key).1 := by
  rw [request_eq]
  cases (l.served now key).1 <;> rfl

@[simp] theorem verdict_eq_pass_iff {g : Grant} : verdict α g = .pass ↔ g = .token := by
  cases g <;> simp [verdict]

@[simp] theorem verdict_eq_undefined_iff {g : Grant} :
    verdict α g = .undefined ↔ g = .undefined := by
  cases g <;> simp [verdict]

theorem exists_wait_of_verdict {g : Grant} {seconds : Nat} (h : verdict α g = .retry seconds) :
    ∃ nanos, g = .wait nanos ∧ max 1 (Amount.wholeSeconds α nanos) = seconds := by
  cases g with
  | token => exact nomatch h
  | wait nanos => exact ⟨nanos, rfl, Admission.retry.inj h⟩
  | undefined => exact nomatch h

/-- What becomes of a limiter: a request that is not answered is not counted, and every 1024th
that is answered drops the full buckets. -/
theorem request_cases (now : Nat) (key : String) (l : Limiter α) :
    ∃ stored : Limiter α, stored.limit = l.limit ∧
      stored.buckets = store key (l.served now key).2 l.buckets ∧
      (((l.request now key).1 = .undefined ∧ stored.requests = l.requests ∧
          (l.request now key).2 = stored) ∨
        ((l.request now key).1 ≠ .undefined ∧ stored.requests = l.requests + 1 ∧
          (l.request now key).2 = if 1024 ∣ stored.requests then stored.sweep now else stored)) := by
  have hdue : l.requests % sweepEvery = sweepEvery - 1 ↔ 1024 ∣ l.requests + 1 := by
    unfold sweepEvery
    omega
  rw [request_answer, ne_eq, verdict_eq_undefined_iff, request_eq]
  generalize l.served now key = answered
  obtain ⟨grant, b⟩ := answered
  cases grant with
  | undefined => exact ⟨⟨l.limit, store key b l.buckets, l.requests⟩, rfl, rfl, .inl ⟨rfl, rfl, rfl⟩⟩
  | token =>
      refine ⟨⟨l.limit, store key b l.buckets, l.requests + 1⟩, rfl, rfl, .inr ⟨nofun, rfl, ?_⟩⟩
      exact if_congr hdue rfl rfl
  | wait nanos =>
      refine ⟨⟨l.limit, store key b l.buckets, l.requests + 1⟩, rfl, rfl, .inr ⟨nofun, rfl, ?_⟩⟩
      exact if_congr hdue rfl rfl

/-- The bucket of the client is put back, and perhaps full buckets are dropped. -/
theorem request_limiter (now : Nat) (key : String) (l : Limiter α) :
    ∃ stored : Limiter α, stored.limit = l.limit ∧
      stored.buckets = store key (l.served now key).2 l.buckets ∧
      ((l.request now key).2 = stored ∨ (l.request now key).2 = stored.sweep now) := by
  obtain ⟨stored, hlimit, hbuckets, ⟨-, -, hcase⟩ | ⟨-, -, hcase⟩⟩ := request_cases now key l
  · exact ⟨stored, hlimit, hbuckets, .inl hcase⟩
  · rw [hcase]
    exact ⟨stored, hlimit, hbuckets, (ite_eq_or_eq _ _ _).symm⟩

/-! ## Events -/

/-- What happens to a limiter. -/
inductive Event (ρ : Type) where
  | request (r : ρ)
  | sweep
  | wait (nanos : Nat)
  deriving DecidableEq, Repr

/-- A limiter at some time. -/
structure Watch (α : Type) where
  limiter : Limiter α
  now : Nat

/-- What a client was told. -/
structure Reply where
  time : Nat
  client : String
  answer : Admission
  deriving DecidableEq, Repr

namespace Watch

def step (key : ρ → String) (w : Watch α) : Event ρ → Watch α
  | .request r => { w with limiter := (w.limiter.request w.now (key r)).2 }
  | .sweep => { w with limiter := w.limiter.sweep w.now }
  | .wait nanos => { w with now := w.now + nanos }

def reply? (key : ρ → String) (w : Watch α) : Event ρ → Option Reply
  | .request r => some ⟨w.now, key r, (w.limiter.request w.now (key r)).1⟩
  | .sweep => none
  | .wait _ => none

/-- The limiter after some events. -/
def run (key : ρ → String) (w : Watch α) (es : List (Event ρ)) : Watch α :=
  es.foldl (step key) w

/-- The replies to all requests, in their order. -/
def replies (key : ρ → String) (w : Watch α) : List (Event ρ) → List Reply
  | [] => []
  | e :: es => (w.reply? key e).toList ++ (w.step key e).replies key es

theorem run_concat (key : ρ → String) (w : Watch α) (es : List (Event ρ)) (e : Event ρ) :
    w.run key (es ++ [e]) = (w.run key es).step key e := by
  unfold run
  rw [List.foldl_append]
  rfl

theorem replies_concat (key : ρ → String) (w : Watch α) (es : List (Event ρ))
    (e : Event ρ) :
    w.replies key (es ++ [e]) = w.replies key es ++ ((w.run key es).reply? key e).toList := by
  induction es generalizing w with
  | nil => exact List.append_nil _
  | cons first es ih =>
      show _ ++ (w.step key first).replies key (es ++ [e]) = _
      rw [ih, ← List.append_assoc]
      rfl

end Watch

/-- The times of all requests and whose they are. -/
def schedule (key : ρ → String) (now : Nat) : List (Event ρ) → List (Nat × String)
  | [] => []
  | .request r :: es => (now, key r) :: schedule key now es
  | .sweep :: es => schedule key now es
  | .wait nanos :: es => schedule key (now + nanos) es

/-- Every request is replied to, when it is sent. -/
theorem Watch.schedule_replies (key : ρ → String) (w : Watch α) (es : List (Event ρ)) :
    (w.replies key es).map (fun r => (r.time, r.client)) = schedule key w.now es := by
  induction es generalizing w with
  | nil => rfl
  | cons e es ih =>
      cases e with
      | request r => exact congrArg _ (ih _)
      | sweep => exact ih _
      | wait nanos => exact ih _

/-- Replies come in the order of time. -/
theorem Watch.ordered_replies (key : ρ → String) (w : Watch α) (es : List (Event ρ)) :
    (w.replies key es).Pairwise (·.time ≤ ·.time) ∧ ∀ r ∈ w.replies key es, w.now ≤ r.time := by
  induction es generalizing w with
  | nil => exact ⟨.nil, nofun⟩
  | cons e es ih =>
      obtain ⟨hordered, hfrom⟩ := ih (w.step key e)
      cases e with
      | request r => exact ⟨.cons hfrom hordered, List.forall_mem_cons.mpr ⟨Nat.le_refl _, hfrom⟩⟩
      | sweep => exact ⟨hordered, hfrom⟩
      | wait nanos =>
          exact ⟨hordered, fun r hr => Nat.le_trans (Nat.le_add_right _ _) (hfrom r hr)⟩

end Limiter

end Gateway
