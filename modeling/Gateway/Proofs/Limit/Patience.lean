import Gateway.Proofs.Limit.Exact

/-!
# Refused requests cost nothing

A refused request refills the bucket of its client, as the next request does anyhow, and it
may bring forward the dropping of full buckets, which nobody notices. So whatever refused
requests are taken out of a run, all others are told the same: who asks all the time is let
through exactly when one who waits would be.
-/

namespace Gateway.Limiter

variable {ρ : Type}

/-- What becomes of each event. Only requests are replied to. -/
def Watch.outcomes {α : Type} [Amount α] (key : ρ → String) (w : Watch α) :
    List (Event ρ) → List (Option Reply)
  | [] => []
  | e :: es => w.reply? key e :: (w.step key e).outcomes key es

/-- A list without the items at some places. -/
def without {β : Type} (out : ℕ → Bool) : List β → List β
  | [] => []
  | x :: xs =>
      if out 0 then without (fun n => out (n + 1)) xs else x :: without (fun n => out (n + 1)) xs

/-! ## Limiters that agree -/

/-- Two limiters at the same time that have the same for each client, now and later. -/
structure Agree (l : Limit ℚ) (shelf shelf' : String → Option (Bucket ℚ)) (w w' : Watch ℚ) :
    Prop where
  left : Mirrors l l.Holds shelf w
  right : Mirrors l l.Holds shelf' w'
  now_eq : w'.now = w.now
  updated : ∀ client b, shelf client = some b → b.updated ≤ w.now
  stock_eq : ∀ client later, w.now ≤ later →
    stock l (shelf' client) later = stock l (shelf client) later

variable {l : Limit ℚ} {shelf shelf' : String → Option (Bucket ℚ)} {w w' : Watch ℚ}

theorem Agree.served_eq (h : Agree l shelf shelf' w w') (hregular : l.Regular l.Holds)
    (client : String) : w'.limiter.served w'.now client = w.limiter.served w.now client := by
  rw [h.right.served_eq hregular, h.left.served_eq hregular, h.now_eq]
  exact Bucket.acquire_congr (h.stock_eq client w.now le_rfl)

theorem Agree.reply?_eq (h : Agree l shelf shelf' w w') (hregular : l.Regular l.Holds)
    (key : ρ → String) (e : Event ρ) : w'.reply? key e = w.reply? key e := by
  cases e with
  | request r =>
      show some (Reply.mk w'.now (key r) (w'.limiter.request w'.now (key r)).1) = some _
      rw [request_answer, h.served_eq hregular, h.now_eq, ← request_answer]
  | sweep => rfl
  | wait nanos => rfl

/-- What is put back for a client was last refilled now. -/
theorem Agree.updated_served (h : Agree l shelf shelf' w w') (hregular : l.Regular l.Holds)
    (client : String) : ∀ other b,
      Function.update shelf client (some (w.limiter.served w.now client).2) other = some b →
        b.updated ≤ w.now := by
  intro other b hb
  by_cases hother : other = client
  · rw [hother, Function.update_self, Option.some_inj] at hb
    rw [← hb, h.left.served_eq hregular, Bucket.updated_acquire]
  · rw [Function.update_of_ne hother] at hb
    exact h.updated other b hb

/-- An event that happens to both. -/
theorem Agree.step (h : Agree l shelf shelf' w w') (hregular : l.Regular l.Holds)
    (key : ρ → String) (e : Event ρ) :
    ∃ shelf shelf', Agree l shelf shelf' (w.step key e) (w'.step key e) := by
  cases e with
  | request r =>
      refine ⟨_, _, h.left.request hregular (key r), h.right.request hregular (key r), h.now_eq,
        h.updated_served hregular (key r), ?_⟩
      intro client later hlater
      rw [h.served_eq hregular]
      by_cases hclient : client = key r
      · rw [hclient, Function.update_self, Function.update_self]
      · rw [Function.update_of_ne hclient, Function.update_of_ne hclient]
        exact h.stock_eq client later hlater
  | sweep =>
      exact ⟨shelf, shelf', h.left.sweep hregular, h.right.sweep hregular, h.now_eq, h.updated,
        h.stock_eq⟩
  | wait nanos =>
      refine ⟨shelf, shelf', h.left.wait nanos, h.right.wait nanos, congrArg (· + nanos) h.now_eq,
        ?_, ?_⟩
      · intro client b hb
        exact (h.updated client b hb).trans (Nat.le_add_right _ _)
      · intro client later hlater
        exact h.stock_eq client later ((Nat.le_add_right _ _).trans hlater)

/-- A request that is refused may happen to one of them alone. -/
theorem Agree.refuse (h : Agree l shelf shelf' w w') (hrate : 0 ≤ l.rate)
    (hregular : l.Regular l.Holds) (key : ρ → String) (r : ρ)
    (hrefused : (w.limiter.request w.now (key r)).1 ≠ .pass) :
    ∃ shelf, Agree l shelf shelf' (w.step key (.request r)) w' := by
  refine ⟨_, h.left.request hregular (key r), h.right, h.now_eq,
    h.updated_served hregular (key r), ?_⟩
  intro client later hlater
  by_cases hclient : client = key r
  · -- The bucket is refilled and nothing else.
    have hserved := h.left.served_eq hregular (key r)
    rw [request_answer, ne_eq, verdict_eq_pass_iff, hserved, Bucket.acquire_token_iff]
      at hrefused
    have hbucket : (w.limiter.served w.now (key r)).2 = stock l (shelf (key r)) w.now := by
      rw [hserved, Bucket.acquire_of_lt (not_le.mp hrefused)]
      rfl
    rw [hclient, Function.update_self, hbucket,
      stock_refilled hrate (h.updated (key r)) hlater]
    exact h.stock_eq (key r) later hlater
  · rw [Function.update_of_ne hclient]
    exact h.stock_eq client later hlater

/-! ## Runs without some refused requests -/

theorem Agree.outcomes_eq (hrate : 0 ≤ l.rate) (hregular : l.Regular l.Holds) (key : ρ → String)
    (es : List (Event ρ)) (out : ℕ → Bool) (h : Agree l shelf shelf' w w')
    (hout : ∀ n o, out n = true → (w.outcomes key es)[n]? = some o →
      ∃ r, o = some r ∧ r.answer ≠ .pass) :
    w'.outcomes key (without out es) = without out (w.outcomes key es) := by
  induction es generalizing out w w' shelf shelf' with
  | nil => rfl
  | cons e es ih =>
      have hrest : ∀ n o, out (n + 1) = true → ((w.step key e).outcomes key es)[n]? = some o →
          ∃ r, o = some r ∧ r.answer ≠ .pass := by
        intro n o hn ho
        exact hout (n + 1) o hn ho
      rw [without, Watch.outcomes, without]
      by_cases hfirst : out 0 = true
      · rw [if_pos hfirst, if_pos hfirst]
        obtain ⟨reply, hreply, hrefused⟩ := hout 0 _ hfirst rfl
        cases e with
        | request r =>
            obtain rfl := Option.some_inj.mp hreply
            obtain ⟨shelf, hagree⟩ := h.refuse hrate hregular key r hrefused
            exact ih _ hagree hrest
        | sweep => exact nomatch hreply
        | wait nanos => exact nomatch hreply
      · rw [if_neg hfirst, if_neg hfirst, Watch.outcomes, h.reply?_eq hregular]
        obtain ⟨shelf, shelf', hagree⟩ := h.step hregular key e
        exact congrArg _ (ih _ hagree hrest)

/-- Taking refused requests out of a run takes their replies out, and changes no other. -/
theorem outcomes_without (hrate : 0 < l.rate) (hburst : 1 ≤ l.burst) (key : ρ → String)
    (start : ℕ) (es : List (Event ρ)) (out : ℕ → Bool)
    (hout : ∀ n o, out n = true → ((Watch.mk (ofLimit l) start).outcomes key es)[n]? = some o →
      ∃ r, o = some r ∧ r.answer ≠ .pass) :
    (Watch.mk (ofLimit l) start).outcomes key (without out es) =
      without out ((Watch.mk (ofLimit l) start).outcomes key es) := by
  have hregular := l.regular_of_nonneg hrate.le (zero_le_one.trans hburst)
  have hfirst := mirrors_ofLimit l l.Holds start
  have hagree : Agree l (fun _ => none) (fun _ => none) (Watch.mk (ofLimit l) start)
      (Watch.mk (ofLimit l) start) :=
    ⟨hfirst, hfirst, rfl, nofun, fun _ _ _ => rfl⟩
  exact hagree.outcomes_eq hrate.le hregular key es out hout

/-- A client that asks once more in between is let through when it would have been anyhow. -/
theorem outcomes_without_second :
    (0 : ℚ) < 1 / 2 ∧ (1 : ℚ) ≤ 1 ∧
      (Watch.mk (ofLimit (⟨1 / 2, 1⟩ : Limit ℚ)) 0).outcomes id
          [.request "a", .request "a", .wait (2 * Duration.second), .request "a"] =
        [some ⟨0, "a", .pass⟩, some ⟨0, "a", .retry 2⟩, none,
          some ⟨2 * Duration.second, "a", .pass⟩] ∧
      (Watch.mk (ofLimit (⟨1 / 2, 1⟩ : Limit ℚ)) 0).outcomes id
          (without (· == 1)
            [.request "a", .request "a", .wait (2 * Duration.second), .request "a"]) =
        without (· == 1) [some ⟨0, "a", .pass⟩, some ⟨0, "a", .retry 2⟩, none,
          some ⟨2 * Duration.second, "a", .pass⟩] := by
  have hrate : (0 : ℚ) < 1 / 2 := by norm_num
  have hburst : (1 : ℚ) ≤ 1 := le_rfl
  have houtcomes : (Watch.mk (ofLimit (⟨1 / 2, 1⟩ : Limit ℚ)) 0).outcomes id
      [.request "a", .request "a", .wait (2 * Duration.second), .request "a"] =
        [some ⟨0, "a", .pass⟩, some ⟨0, "a", .retry 2⟩, none,
          some ⟨2 * Duration.second, "a", .pass⟩] := by
    decide +kernel
  refine ⟨hrate, hburst, houtcomes, ?_⟩
  rw [← houtcomes]
  refine outcomes_without hrate hburst id 0 _ _ fun n o hn ho => ?_
  obtain rfl : n = 1 := beq_iff_eq.mp hn
  rw [houtcomes] at ho
  exact ⟨_, (Option.some_inj.mp ho).symm, by decide⟩

end Gateway.Limiter
