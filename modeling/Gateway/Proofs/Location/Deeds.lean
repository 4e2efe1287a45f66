import Gateway.Proofs.Location.Traffic

/-!
# Deeds

What is true of everything that is done for requests, whatever the order in which they go on:
what a round takes up is given back or is held by a request that waits, and the history of a
request has all its attempts that are over.
-/

namespace Gateway

variable {β μ ο σ : Type}

/-! ## What is known of all deeds -/

/-- What is to be true of the attempts, of those that all middlewares let pass, of the
observers that are told, and of the answers of backends. -/
structure Norm (μ ο : Type) where
  begun : Trial μ ο → Prop
  passed : Trial μ ο → Prop
  watching : List (String × ο) → Prop
  answer : Outcome → Prop

/-- A deed of one kind or another to which the norm applies. -/
inductive Deed.Meets (N : Norm μ ο) : Deed μ ο → Prop
  | opened {w} (watching : N.watching w) : Meets N (.opened w)
  | sent {t} (begun : N.begun t) (passed : N.passed t) : Meets N (.sent t)
  | landed {t a} (begun : N.begun t) (passed : N.passed t)
      (endpoint : a.endpoint = t.member.endpoint) (reached : a.intercepted = false)
      (answer : N.answer a.outcome) : Meets N (.ended t a true)
  | intercepted {t a} (begun : N.begun t) (endpoint : a.endpoint = t.member.endpoint)
      (intercepted : a.intercepted = true) : Meets N (.ended t a false)
  | unsendable {t a message} (begun : N.begun t) (passed : N.passed t)
      (endpoint : a.endpoint = t.member.endpoint) (unanswered : a.intercepted = false)
      (outcome : a.outcome = .error (.internal message)) : Meets N (.ended t a false)
  | unplaced {e w} (watching : N.watching w) : Meets N (.unplaced e w)
  | brokeDown {w} (watching : N.watching w) : Meets N (.brokeDown w)

/-- A flight that waits for a backend under the norm. -/
def Flight.Meets (N : Norm μ ο) (f : Flight μ ο) : Prop :=
  ∀ t, f.trial? = some t → N.begun t ∧ N.passed t

structure Traffic.Meets (N : Norm μ ο) (T : Traffic β μ ο σ) : Prop where
  deeds : ∀ d ∈ T.done, d.Meets N
  flights : ∀ f ∈ T.flights, f.Meets N

section

variable [Balancer β]

/-- A site at which rounds are under the norm. -/
structure Norm.RulesAt (N : Norm μ ο) (h : Handlers β μ ο σ) (s : Site β μ ο σ) : Prop where
  begun : ∀ {v : Visit} {t : Trial μ ο}, t.Begun h v s → N.begun t
  passed : ∀ {v : Visit} {t : Trial μ ο}, t.Passed h v s → N.passed t
  watching : N.watching s.observers.entries

theorem Norm.RulesAt.deeds {N : Norm μ ο} {h : Handlers β μ ο σ} {s : Site β μ ο σ}
    (hN : N.RulesAt h s) (l : Location) (v : Visit) : ∀ d ∈ v.deeds h l s, d.Meets N := by
  have hopened : Deed.Meets N (.opened s.observers.entries) := .opened hN.watching
  have hround := v.round_of h l s
  unfold Visit.deeds
  generalize (v.round h l s).1 = round at hround ⊢
  cases hround with
  | unplaced => simpa [Round.deeds, hopened] using Deed.Meets.unplaced hN.watching
  | brokeDown => simpa [Round.deeds, hopened] using Deed.Meets.brokeDown hN.watching
  | intercepted begun =>
      simpa [Round.deeds, hopened] using Deed.Meets.intercepted (hN.begun begun) rfl rfl
  | unsendable passed =>
      simpa [Round.deeds, hopened] using
        Deed.Meets.unsendable (hN.begun passed.toBegun) (hN.passed passed) rfl rfl rfl
  | sent passed =>
      simpa [Round.deeds, hopened] using
        Deed.Meets.sent (hN.begun passed.toBegun) (hN.passed passed)

theorem Norm.RulesAt.flight {N : Norm μ ο} {h : Handlers β μ ο σ} {s : Site β μ ο σ}
    (hN : N.RulesAt h s) (l : Location) (v : Visit) : (resume h l v s).1.Meets N := by
  intro t ht
  have hround := v.round_of h l s
  rw [trial?_resume] at ht
  generalize (v.round h l s).1 = round at hround ht
  cases hround with
  | unplaced => cases ht
  | brokeDown => cases ht
  | intercepted begun => cases ht
  | unsendable passed => cases ht
  | sent passed =>
      cases ht
      exact ⟨hN.begun passed.toBegun, hN.passed passed⟩

theorem Traffic.meets_resumed {N : Norm μ ο} {h : Handlers β μ ο σ} {T : Traffic β μ ο σ}
    (hT : T.Meets N) (hN : N.RulesAt h T.site) (l : Location) (i : Nat) (v : Visit) :
    (T.resumed h l i v).Meets N where
  deeds := by
    intro d hd
    rw [done_resumed, List.mem_append] at hd
    rcases hd with hd | hd
    · exact hT.deeds d hd
    · exact hN.deeds l v d hd
  flights := by
    intro f hf
    rcases List.mem_or_eq_of_mem_set hf with hf | rfl
    · exact hT.flights f hf
    · exact hN.flight l v

end

theorem Traffic.meets_landed {N : Norm μ ο} {T : Traffic β μ ο σ} (hT : T.Meets N)
    (h : Handlers β μ ο σ) (l : Location) {i : Nat} {t : Trial μ ο} {out : Outbound} {o : Outcome}
    (hflight : T.flights[i]? = some (.sending t out)) (ho : N.answer o) :
    (T.landed h l i t o).Meets N where
  deeds := by
    intro d hd
    rw [done_landed, List.mem_append, List.mem_singleton] at hd
    rcases hd with hd | rfl
    · exact hT.deeds d hd
    · obtain ⟨hbegun, hpassed⟩ := hT.flights _ (List.mem_of_getElem? hflight) t rfl
      exact .landed hbegun hpassed rfl rfl ho
  flights := by
    intro f hf
    rcases List.mem_or_eq_of_mem_set hf with hf | rfl
    · exact hT.flights f hf
    · intro u hu
      rw [trial?_land] at hu
      cases hu

/-! ## Observers -/

/-- How many of the observers that `p` picks are told of a request by this. -/
def Deed.begins (p : String × ο → Bool) : Deed μ ο → Nat
  | .opened w => w.countP p
  | _ => 0

/-- How many of them are told how an attempt ended, or that there was no endpoint. -/
def Deed.ends (p : String × ο → Bool) : Deed μ ο → Nat
  | .ended t _ _ => t.watching.countP p
  | .unplaced _ w => w.countP p
  | _ => 0

/-- Handlers leave the history of a request alone. -/
structure Handlers.KeepHistory (h : Handlers β μ ο σ) : Prop where
  onRequest : ∀ m r s, (h.onRequest m r s).2.1.attempts = r.attempts
  onResponse : ∀ m r a s, (h.onResponse m r a s).1.attempts = r.attempts

variable {h : Handlers β μ ο σ}

theorem attempts_runMiddlewares (hh : h.KeepHistory) (ms : List (String × μ)) (r : Request)
    (s : Site β μ ο σ) : (runMiddlewares h ms r s).2.2.1.attempts = r.attempts :=
  runMiddlewares_request (fun m r' s hr => (hh.onRequest m r' s).trans hr) ms rfl s

section

variable [Balancer β]

theorem Trial.Begun.attempts (hh : h.KeepHistory) {t : Trial μ ο} {v : Visit}
    {s : Site β μ ο σ} (ht : t.Begun h v s) :
    t.visit.request.attempts = v.request.attempts := by
  rw [ht.request]
  exact attempts_runMiddlewares hh _ v.request _

end

namespace Traffic

/-- Requests are numbered, and each has its attempts that are over in its history, behind what
it brought along. -/
structure Chronicled (T : Traffic β μ ο σ) : Prop where
  length : T.flights.length = T.requests.length
  numbered : ∀ d ∈ T.deeds, d.1 < T.requests.length
  history : ∀ i f r, T.flights[i]? = some f → f.request? = some r →
    ∃ r₀, T.requests[i]? = some r₀ ∧
      r.attempts = r₀.attempts ++ (T.attemptsOf i).map Attempt.summary

/-- The request `i` goes on, with some more attempts in its history. -/
theorem Chronicled.set {T T' : Traffic β μ ο σ} (hT : T.Chronicled) {i : Nat}
    {f f' : Flight μ ο} {q : Request} {more : List Attempt} (hf : T.flights[i]? = some f)
    (hq : f.request? = some q) (hrequests : T'.requests = T.requests)
    (hflights : T'.flights = T.flights.set i f')
    (hdeeds : ∀ d ∈ T'.deeds, d ∈ T.deeds ∨ d.1 = i)
    (hattempts : ∀ j, T'.attemptsOf j = T.attemptsOf j ++ if i = j then more else [])
    (hmore : ∀ r, f'.request? = some r → r.attempts = q.attempts ++ more.map Attempt.summary) :
    T'.Chronicled := by
  have hi : i < T.flights.length := (List.getElem?_eq_some_iff.mp hf).1
  constructor
  · rw [hflights, hrequests, List.length_set, hT.length]
  · intro d hd
    rw [hrequests]
    rcases hdeeds d hd with hd | rfl
    · exact hT.numbered d hd
    · exact hT.length ▸ hi
  · intro j g r hg hr
    rw [hrequests, hattempts]
    rw [hflights] at hg
    by_cases hij : i = j
    · subst hij
      rw [List.getElem?_set_self hi] at hg
      obtain rfl := Option.some.inj hg
      obtain ⟨r₀, hr₀, hattempts₀⟩ := hT.history i f q hf hq
      refine ⟨r₀, hr₀, ?_⟩
      rw [hmore r hr, hattempts₀, if_pos rfl, List.map_append, List.append_assoc]
    · rw [List.getElem?_set_ne hij] at hg
      rw [if_neg hij, List.append_nil]
      exact hT.history j g r hg hr

theorem Chronicled.enter [Balancer β] {T : Traffic β μ ο σ} (hT : T.Chronicled) (l : Location)
    (r : Request) : (T.enter l r).Chronicled where
  length := by simp [Traffic.enter, hT.length]
  numbered := by
    intro d hd
    have := hT.numbered d hd
    simp only [Traffic.enter, List.length_append, List.length_singleton]
    omega
  history := by
    intro i f q hf hq
    rw [flights_enter] at hf
    rcases Nat.lt_trichotomy i T.flights.length with hlt | rfl | hgt
    · rw [List.getElem?_append_left hlt] at hf
      obtain ⟨r₀, hr₀, hattempts⟩ := hT.history i f q hf hq
      refine ⟨r₀, ?_, hattempts⟩
      simp only [Traffic.enter]
      rw [List.getElem?_append_left (hT.length ▸ hlt), hr₀]
    · -- Nothing has been done so far for a request that comes in.
      have hnone : T.attemptsOf T.flights.length = [] := by
        refine List.filterMap_eq_nil_iff.mpr fun d hd => if_neg ?_
        have := hT.numbered d hd
        have := hT.length
        omega
      rw [List.getElem?_concat_length] at hf
      obtain rfl := Option.some.inj hf
      obtain rfl := Option.some.inj hq
      refine ⟨r, by simp [Traffic.enter, hT.length], ?_⟩
      have hsame : (T.enter l r).attemptsOf T.flights.length = T.attemptsOf T.flights.length := rfl
      rw [hsame, hnone]
      exact (List.append_nil _).symm
    · rw [List.getElem?_eq_none (by simp; omega)] at hf
      cases hf

end Traffic

end Gateway
