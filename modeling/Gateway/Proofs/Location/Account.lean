import Gateway.Proofs.Location.Deeds

/-!
# Accounts

Some of what stands at a site changes only by what is done for requests: by the start and the
end of an attempt, and by what those do who are told how it ended. After any traffic it is what
the list of deeds makes of it.
-/

namespace Gateway

variable {β μ ο σ α : Type} [Balancer β]

/-- Something that stands at a site, and what deeds do to it. -/
structure Account (h : Handlers β μ ο σ) (α : Type) where
  view : Site β μ ο σ → α
  told : String × μ → Attempt → α → α
  seen : String × ο → Attempt → α → α
  missed : String × ο → Error → α → α
  start : Member → α → α
  finish : Member → Bool → α → α
  view_onRequest : ∀ m r s, view (h.onRequest m r s).2.2 = view s
  view_onResponse : ∀ m r a s, view (h.onResponse m r a s).2 = told m a (view s)
  view_seeRequest : ∀ o r s, view (h.seeRequest o r s) = view s
  view_seeResponse : ∀ o r a s, view (h.seeResponse o r a s) = seen o a (view s)
  view_seeFailure : ∀ o r e s, view (h.seeFailure o r e s) = missed o e (view s)
  view_pick : ∀ s, view s.pick.2 = view s
  view_draws : ∀ draws s, view { s with draws } = view s
  view_startAttempt : ∀ m s, view (s.startAttempt m) = start m (view s)
  view_finishAttempt : ∀ m success s,
    view (s.finishAttempt m success) = finish m success (view s)

namespace Account

variable {h : Handlers β μ ο σ} {l : Location}

/-- What everyone who is told of the end of an attempt does. -/
def tell (A : Account h α) (t : Trial μ ο) (a : Attempt) (x : α) : α :=
  t.watching.foldl (fun x o => A.seen o a x) (t.ran.foldl (fun x m => A.told m a x) x)

def post (A : Account h α) : Deed μ ο → α → α
  | .opened _ => id
  | .sent t => A.start t.member
  | .ended t a true => fun x => A.tell t a (A.finish t.member a.outcome.isSuccess x)
  | .ended t a false => A.tell t a
  | .unplaced e watching => fun x => watching.foldl (fun x o => A.missed o e x) x
  | .brokeDown _ => id

/-- What the deeds make of it. -/
def balance (A : Account h α) (deeds : List (Deed μ ο)) (x : α) : α :=
  deeds.foldl (fun x d => A.post d x) x

/-! ## The way of a request -/

theorem view_foldl {η : Type} (A : Account h α) {f : Site β μ ο σ → η → Site β μ ο σ}
    {g : α → η → α} (hf : ∀ s y, A.view (f s y) = g (A.view s) y) (ys : List η)
    (s : Site β μ ο σ) : A.view (ys.foldl f s) = ys.foldl g (A.view s) := by
  induction ys generalizing s with
  | nil => rfl
  | cons y ys ih => rw [List.foldl_cons, List.foldl_cons, ih, hf]

theorem view_announce (A : Account h α) (r : Request) (s : Site β μ ο σ) :
    A.view (announce h r s) = A.view s :=
  announce_site (P := fun s' => A.view s' = A.view s)
    (fun o r s' hs' => (A.view_seeRequest o r s').trans hs') r rfl

theorem view_askAgain (A : Account h α) (tried : List String) (n : Nat) (m : Member)
    (s : Site β μ ο σ) : A.view (askAgain tried n m s).2 = A.view s := by
  induction n generalizing m s with
  | zero => rfl
  | succ n ih =>
      have hpick := A.view_pick s
      unfold askAgain
      split
      · rcases hs : s.pick with ⟨e | m', s'⟩ <;> rw [hs] at hpick
        · exact hpick
        · exact (ih m' s').trans hpick
      · rfl

theorem view_opening (A : Account h α) (v : Visit) (s : Site β μ ο σ) :
    A.view (v.opening h s).2 = A.view s := by
  rw [← A.view_announce v.request s]
  have hpick := A.view_pick (announce h v.request s)
  unfold Visit.opening selectEndpoint
  rcases hs : (announce h v.request s).pick with ⟨e | m, s'⟩ <;> rw [hs] at hpick
  · exact hpick
  · have hask := (A.view_askAgain v.tried (Balancer.members s'.pool).length m s').trans hpick
    simp only []
    split
    · exact hpick
    · rcases hs' : askAgain v.tried (Balancer.members s'.pool).length m s' with ⟨e | m', s''⟩ <;>
        rw [hs'] at hask
      · exact hask
      · simp only []
        split <;> exact hask

theorem view_runMiddlewares (A : Account h α) (ms : List (String × μ)) (r : Request)
    (s : Site β μ ο σ) : A.view (runMiddlewares h ms r s).2.2.2 = A.view s :=
  runMiddlewares_site (P := fun s' => A.view s' = A.view s)
    (fun m r s' hs' => (A.view_onRequest m r s').trans hs') ms r rfl

theorem view_round (A : Account h α) (v : Visit) (s : Site β μ ο σ) :
    A.view (v.round h l s).2 = A.view s := by
  have hopening := A.view_opening v s
  unfold Visit.round
  rcases hs : v.opening h s with ⟨e | m, s'⟩ <;> rw [hs] at hopening
  · exact hopening
  · exact (A.view_runMiddlewares s'.middlewares.entries v.request s').trans hopening

theorem view_tellMiddlewares (A : Account h α) (a : Attempt) (ran : List (String × μ))
    (r : Request) (s : Site β μ ο σ) :
    A.view (tellMiddlewares h a ran r s).2 = ran.foldl (fun x m => A.told m a x) (A.view s) := by
  unfold tellMiddlewares
  induction ran generalizing r s with
  | nil => rfl
  | cons m ran ih =>
      rw [List.foldl_cons, List.foldl_cons, ← A.view_onResponse m r a s]
      exact ih _ _

theorem view_settle (A : Account h α) (t : Trial μ ο) (o : Outcome) (intercepted : Bool)
    (s : Site β μ ο σ) :
    A.view (settle h t o intercepted s).2.2 =
      A.tell t (t.attempt o intercepted s.now) (A.view s) := by
  unfold settle tell tellObservers
  refine (A.view_foldl (g := fun x u => A.seen u (t.attempt o intercepted s.now) x)
    (fun s u => A.view_seeResponse u _ _ s) _ _).trans ?_
  rw [view_tellMiddlewares]
  rfl

theorem view_conclude (A : Account h α) (t : Trial μ ο) (o : Outcome) (intercepted : Bool)
    (s : Site β μ ο σ) :
    A.view (conclude h l t o intercepted s).2 =
      A.tell t (t.attempt o intercepted s.now) (A.view s) := by
  have hproceed : ∀ (v : Visit) (a : Attempt) (s : Site β μ ο σ),
      A.view (proceed l v a s : Flight μ ο × Site β μ ο σ).2 = A.view s := by
    intro v a s
    cases hretry : l.failover.shouldRetry v.request.method a v.made v.budget with
    | true => rw [proceed_retry hretry, A.view_draws]
    | false => rw [proceed_finished hretry]
  rw [conclude_eq, hproceed, view_settle]

/-- What a round does to an account. -/
theorem view_resume (A : Account h α) (v : Visit) (s : Site β μ ο σ) :
    A.view (resume h l v s).2 = A.balance (v.deeds h l s) (A.view s) := by
  have hround := A.view_round (l := l) v s
  rw [resume_eq]
  unfold Visit.deeds balance
  cases (v.round h l s).1 with
  | unplaced e =>
      refine (A.view_foldl (g := fun x o => A.missed o e x)
        (fun s o => A.view_seeFailure o v.request e s) _ _).trans ?_
      rw [hround]
      rfl
  | brokeDown => exact hround
  | settled t o intercepted =>
      refine (A.view_conclude t o intercepted _).trans ?_
      rw [hround]
      rfl
  | sent t out =>
      refine (A.view_startAttempt t.member _).trans ?_
      rw [hround]
      rfl

/-- What the answer of a backend does to an account. -/
theorem view_land (A : Account h α) (t : Trial μ ο) (o : Outcome) (s : Site β μ ο σ) :
    A.view (land h l t o s).2 = A.post (.ended t (t.attempt o false s.now) true) (A.view s) := by
  refine (A.view_conclude t o false _).trans ?_
  rw [A.view_finishAttempt]
  rfl

/-- What the site keeps of any traffic is what the deeds make of what it had. -/
theorem view_run (A : Account h α) (l : Location) (s : Site β μ ο σ)
    {events : List (Traffic.Event β μ ο σ)}
    (hchange : ∀ f, .change f ∈ events → ∀ s, A.view (f s) = A.view s) :
    A.view ((Traffic.start s).run h l events).site =
      A.balance ((Traffic.start s).run h l events).done (A.view s) := by
  refine Traffic.run_induction (P := fun T => A.view T.site = A.balance T.done (A.view s))
    rfl ?_ ?_ ?_ ?_
  · exact fun T r hT => hT
  · intro T i v nanos hT _
    refine (A.view_resume v T.site).trans ?_
    rw [Traffic.done_resumed, balance, balance, List.foldl_append, hT]
    rfl
  · intro T i t out o hT _ _
    refine (A.view_land t o T.site).trans ?_
    rw [Traffic.done_landed, balance, List.foldl_append, hT]
    rfl
  · exact fun T f hT hf => (hchange f hf T.site).trans hT

end Account

/-! ## What handlers leave alone -/

/-- Handlers leave alone what is looked at. -/
structure Handlers.Keep (h : Handlers β μ ο σ) (view : Site β μ ο σ → α) : Prop where
  onRequest : ∀ m r s, view (h.onRequest m r s).2.2 = view s
  onResponse : ∀ m r a s, view (h.onResponse m r a s).2 = view s
  seeRequest : ∀ o r s, view (h.seeRequest o r s) = view s
  seeResponse : ∀ o r a s, view (h.seeResponse o r a s) = view s
  seeFailure : ∀ o r e s, view (h.seeFailure o r e s) = view s

variable {h : Handlers β μ ο σ} {view : Site β μ ο σ → α}

/-- The account of something that only sending and landing change. -/
def Handlers.Keep.account (hk : h.Keep view) (start : Member → α → α)
    (finish : Member → Bool → α → α) (view_pick : ∀ s : Site β μ ο σ, view s.pick.2 = view s)
    (view_draws : ∀ draws (s : Site β μ ο σ), view { s with draws } = view s)
    (view_startAttempt : ∀ m s, view (s.startAttempt m) = start m (view s))
    (view_finishAttempt : ∀ m success s,
      view (s.finishAttempt m success) = finish m success (view s)) : Account h α where
  view := view
  told _ _ x := x
  seen _ _ x := x
  missed _ _ x := x
  start := start
  finish := finish
  view_onRequest := hk.onRequest
  view_onResponse := hk.onResponse
  view_seeRequest := hk.seeRequest
  view_seeResponse := hk.seeResponse
  view_seeFailure := hk.seeFailure
  view_pick := view_pick
  view_draws := view_draws
  view_startAttempt := view_startAttempt
  view_finishAttempt := view_finishAttempt

variable {start : Member → α → α} {finish : Member → Bool → α → α}
  {view_pick : ∀ s : Site β μ ο σ, view s.pick.2 = view s}
  {view_draws : ∀ draws (s : Site β μ ο σ), view { s with draws } = view s}
  {view_startAttempt : ∀ m s, view (s.startAttempt m) = start m (view s)}
  {view_finishAttempt : ∀ m success s,
    view (s.finishAttempt m success) = finish m success (view s)}

theorem Handlers.Keep.post_account (hk : h.Keep view) (d : Deed μ ο) (x : α) :
    (hk.account start finish view_pick view_draws view_startAttempt view_finishAttempt).post d x =
      match d with
      | .sent t => start t.member x
      | .ended t a true => finish t.member a.outcome.isSuccess x
      | _ => x := by
  rcases d with w | t | ⟨t, a, _ | _⟩ | ⟨e, w⟩ | w <;>
    simp [Account.post, Account.tell, Handlers.Keep.account]

/-- An account that no deed changes. -/
def Account.Still (A : Account h α) : Prop :=
  ∀ d x, A.post d x = x

theorem Account.Still.balance {A : Account h α} (hA : A.Still) (deeds : List (Deed μ ο)) (x : α) :
    A.balance deeds x = x := by
  unfold Account.balance
  simp only [hA _ _, List.foldl_fixed]

/-- The account of something that nothing changes. -/
def Handlers.Keep.still (hk : h.Keep view) (view_pick : ∀ s : Site β μ ο σ, view s.pick.2 = view s)
    (view_draws : ∀ draws (s : Site β μ ο σ), view { s with draws } = view s)
    (view_startAttempt : ∀ m s, view (s.startAttempt m) = view s)
    (view_finishAttempt : ∀ m success s, view (s.finishAttempt m success) = view s) :
    Account h α :=
  hk.account (fun _ x => x) (fun _ _ x => x) view_pick view_draws view_startAttempt
    view_finishAttempt

theorem Handlers.Keep.still_still (hk : h.Keep view)
    {view_startAttempt : ∀ m s, view (s.startAttempt m) = view s}
    {view_finishAttempt : ∀ m success s, view (s.finishAttempt m success) = view s} :
    (hk.still view_pick view_draws view_startAttempt view_finishAttempt).Still := by
  intro d x
  refine (hk.post_account d x).trans ?_
  rcases d with w | t | ⟨t, a, _ | _⟩ | ⟨e, w⟩ | w <;> rfl

/-! ## Traffic under a norm -/

namespace Traffic

variable {A : Account h α} {N : Norm μ ο} {s : Site β μ ο σ} {events : List (Event β μ ο σ)}

/-- What does not change makes sure that the norm applies to all deeds. So it may be relied on
where something else is shown to be kept. -/
theorem norm_induction (hA : A.Still) (l : Location)
    (hrules : ∀ s', A.view s' = A.view s → N.RulesAt h s')
    (hanswers : ∀ i o, .answer i o ∈ events → N.answer o)
    (hview : ∀ f, .change f ∈ events → ∀ s, A.view (f s) = A.view s)
    {P : Traffic β μ ο σ → Prop} (hstart : P (Traffic.start s))
    (henter : ∀ T r, P T → P (T.enter l r))
    (hresume : ∀ T i v nanos, P T → T.Meets N → N.RulesAt h T.site →
      T.flights[i]? = some (.resting v nanos) → P (T.resumed h l i v))
    (hland : ∀ T i t out o, P T → T.Meets N → T.flights[i]? = some (.sending t out) →
      P (T.landed h l i t o))
    (hchange : ∀ T f, P T → .change f ∈ events → P { T with site := f T.site }) :
    ((Traffic.start s).run h l events).Meets N ∧ P ((Traffic.start s).run h l events) := by
  have hrun : A.view ((Traffic.start s).run h l events).site = A.view s ∧
      ((Traffic.start s).run h l events).Meets N ∧ P ((Traffic.start s).run h l events) := by
    refine run_induction (P := fun T => A.view T.site = A.view s ∧ T.Meets N ∧ P T)
      ⟨rfl, ⟨by simp, by simp [Traffic.start]⟩, hstart⟩ ?_ ?_ ?_ ?_
    · rintro T r ⟨hT, hmeets, hP⟩
      refine ⟨hT, ⟨hmeets.deeds, fun f hf => ?_⟩, henter T r hP⟩
      rw [flights_enter, List.mem_append, List.mem_singleton] at hf
      rcases hf with hf | rfl
      · exact hmeets.flights f hf
      · intro t ht
        cases ht
    · rintro T i v nanos ⟨hT, hmeets, hP⟩ hflight
      have hN := hrules _ hT
      refine ⟨?_, meets_resumed hmeets hN l i v, hresume T i v nanos hP hmeets hN hflight⟩
      exact ((A.view_resume v T.site).trans (hA.balance _ _)).trans hT
    · rintro T i t out o ⟨hT, hmeets, hP⟩ hanswer hflight
      refine ⟨?_, meets_landed hmeets h l hflight (hanswers i o hanswer),
        hland T i t out o hP hmeets hflight⟩
      exact ((A.view_land t o T.site).trans (hA _ _)).trans hT
    · rintro T f ⟨hT, hmeets, hP⟩ hf
      exact ⟨(hview f hf T.site).trans hT, ⟨hmeets.deeds, hmeets.flights⟩, hchange T f hP hf⟩
  exact hrun.2

/-- The norm applies to all deeds. -/
theorem meets_run (hA : A.Still) (l : Location)
    (hrules : ∀ s', A.view s' = A.view s → N.RulesAt h s')
    (hanswers : ∀ i o, .answer i o ∈ events → N.answer o)
    (hview : ∀ f, .change f ∈ events → ∀ s, A.view (f s) = A.view s) :
    ((Traffic.start s).run h l events).Meets N :=
  (norm_induction (P := fun _ => True) hA l hrules hanswers hview trivial (fun _ _ _ => trivial)
    (fun _ _ _ _ _ _ _ _ => trivial) (fun _ _ _ _ _ _ _ _ => trivial) (fun _ _ _ _ => trivial)).1

end Traffic

end Gateway
