import Gateway.Proofs.Location.Recording

/-!
# Who is called on the way of a request

The calls that a request leads to come in blocks, one for each attempt. Those who are told
of the beginning of an attempt are told of its end, too, whatever happens to the chains
between: a change to a chain that has been looked at is for the next attempt.
-/

namespace Gateway

variable {β μ ο σ : Type}

/-- The first of the middlewares are asked in their order, up to one that does not let the
request pass. -/
inductive Asking : List (String × μ) → List (String × μ) → Verdict → List (Call μ ο) → Prop
  | done : Asking [] [] .pass []
  | pass {m ms asked v cs} : Asking ms asked v cs →
      Asking (m :: ms) (m :: asked) v (.onRequest m .pass :: cs)
  | stop {m ms v} : v ≠ .pass → Asking (m :: ms) [m] v [.onRequest m v]

/-- How an attempt gets its outcome from what the last middleware said to the request `r`. The
request is sent only if all of them let it pass and it makes a request to the endpoint. -/
inductive Resolves (trust : Bool) (r : Request) : Verdict → Attempt → List (Call μ ο) → Prop
  | answered {a response} : a.intercepted = true → a.outcome = .ok response →
      Resolves trust r (.respond response) a []
  | rejected {a rejection} : a.intercepted = true → a.outcome = .error (.rejected rejection) →
      Resolves trust r (.reject rejection) a []
  | unsendable {a err} : a.intercepted = false →
      Outbound.ofRequest r a.endpoint trust = .error err → a.outcome = .error err →
      Resolves trust r .pass a []
  | sent {a out} : a.intercepted = false → Outbound.ofRequest r a.endpoint trust = .ok out →
      Resolves trust r .pass a [.send out a.outcome]

/-- What happens in an attempt: the observers are told of the request, middlewares are asked,
the request is sent, and both are told how it ended. -/
structure Block (μ ο : Type) where
  opening : List (Moment μ ο)
  asking : List (Moment μ ο)
  sending : List (Moment μ ο)
  telling : List (Moment μ ο)
  closing : List (Moment μ ο)
  asked : List (String × μ)
  verdict : Verdict

namespace Block

def moments (b : Block μ ο) : List (Moment μ ο) :=
  b.opening ++ b.asking ++ b.sending ++ b.telling ++ b.closing

/-- The moments of the attempt `a`, which begins in the scene `c`. The observers are those at
its beginning, and the middlewares those that there are when the observers have been told of
the request. Whatever changes the chains later is for the next attempt. -/
structure Proper (trust : Bool) (c : Scene μ ο) (a : Attempt) (b : Block μ ο) : Prop where
  opening : calls b.opening = c.observers.map .seeRequest
  asking : Asking (c.after b.opening).middlewares b.asked b.verdict (calls b.asking)
  /-- The middlewares are those at the beginning as well unless an observer changes them. -/
  steady : (∀ e ∈ b.opening, e.scene.middlewares = c.middlewares) →
    Asking c.middlewares b.asked b.verdict (calls b.asking)
  sending : Resolves trust (c.after (b.opening ++ b.asking)).request b.verdict a (calls b.sending)
  telling : calls b.telling = b.asked.map (.onResponse · a)
  closing : calls b.closing = c.observers.map (.seeResponse · a)

end Block

/-- The moments of all attempts of a request, from the scene `c` on. Only a rest is between
one attempt and the next. -/
inductive Protocol (trust : Bool) : Scene μ ο → List Attempt → Ending → List (Moment μ ο) → Prop
  | unplaced {c err opening closing} : calls opening = c.observers.map .seeRequest →
      calls closing = c.observers.map (.seeFailure · err) →
      Protocol trust c [] (.unplaced err) (opening ++ closing)
  | last {c a b} : Block.Proper trust c a b → Protocol trust c [a] (.answered a.outcome) b.moments
  | overflow {c a b} : Block.Proper trust c a b → Protocol trust c [a] .broken b.moments
  | next {c a b scene attempts ending es} : Block.Proper trust c a b →
      Protocol trust scene attempts ending es →
      Protocol trust c (a :: attempts) ending (b.moments ++ ⟨.rest, scene⟩ :: es)

variable {h : Handlers β μ ο σ} {l : Location} {e : Surroundings β μ ο σ}

/-! ## An attempt -/

theorem runMiddlewares_traced (h : Handlers β μ ο σ) (ms : List (String × μ)) (r : Request)
    (s : Site β μ ο σ) (t : List (Moment μ ο)) {asked : List (String × μ)} {v : Verdict}
    {r' : Request} {s' : Site β μ ο σ} (hrun : runMiddlewares h ms r s = (asked, v, r', s')) :
    ∃ es, runMiddlewares h.traced ms r (s.traced t) = (asked, v, r', s'.traced (t ++ es)) ∧
      Asking ms asked v (calls es) ∧ s'.scene r' = (s.scene r).after es := by
  induction ms generalizing r s t asked with
  | nil =>
      cases hrun
      refine ⟨[], ?_, .done, rfl⟩
      rw [List.append_nil]
      rfl
  | cons m ms ih =>
      rcases hask : h.onRequest m r s with ⟨verdict, r₁, s₁⟩
      unfold runMiddlewares at hrun ⊢
      rw [hask] at hrun
      rw [onRequest_traced hask]
      cases verdict with
      | pass =>
          rcases hrest : runMiddlewares h ms r₁ s₁ with ⟨asked', v', r'', s''⟩
          simp only [hrest] at hrun
          cases hrun
          obtain ⟨es, htraced, hasking, hscene⟩ := ih r₁ s₁ (t ++ [⟨.onRequest m .pass, s₁.scene r₁⟩]) hrest
          refine ⟨⟨.onRequest m .pass, s₁.scene r₁⟩ :: es, ?_, .pass hasking, hscene⟩
          simp only [htraced, List.append_assoc, List.singleton_append]
      | respond response =>
          cases hrun
          exact ⟨_, rfl, .stop Verdict.noConfusion, rfl⟩
      | reject rejection =>
          cases hrun
          exact ⟨_, rfl, .stop Verdict.noConfusion, rfl⟩
      | crash =>
          cases hrun
          exact ⟨_, rfl, .stop Verdict.noConfusion, rfl⟩

theorem settle_traced (h : Handlers β μ ο σ) (t : Trial μ ο) (o : Outcome) (intercepted : Bool)
    (s : Site β μ ο σ) (es : List (Moment μ ο)) :
    ∃ telling closing,
      settle h.traced t o intercepted (s.traced es) =
        ((settle h t o intercepted s).1, (settle h t o intercepted s).2.1,
          (settle h t o intercepted s).2.2.traced (es ++ telling ++ closing)) ∧
      calls telling = t.ran.map (.onResponse · (settle h t o intercepted s).1) ∧
      calls closing = t.watching.map (.seeResponse · (settle h t o intercepted s).1) := by
  unfold settle
  simp only [Site.traced_now]
  generalize (⟨t.member.endpoint, o, s.now - t.started, intercepted⟩ : Attempt) = a
  obtain ⟨telling, htelling, hcalls⟩ := tellMiddlewares_traced (h := h) a t.ran
    (t.visit.request.record a.summary) s es
  rw [htelling]
  rcases tellMiddlewares h a t.ran (t.visit.request.record a.summary) s with ⟨r, s'⟩
  obtain ⟨closing, hclosing, hcalls'⟩ := tellObservers_traced (h := h) a t.watching r s' (es ++ telling)
  refine ⟨telling, closing, ?_, hcalls, hcalls'⟩
  simp only [hclosing]

/-- The end of an attempt comes after the calls before it. -/
theorem settle_proper (trust : Bool) {c : Scene μ ο} {opening asking : List (Moment μ ο)}
    (sending : List (Moment μ ο)) {verdict : Verdict} {t : Trial μ ο}
    (hopening : calls opening = c.observers.map .seeRequest)
    (hasking : Asking (c.after opening).middlewares t.ran verdict (calls asking))
    (hwatching : t.watching = c.observers) {o : Outcome} {intercepted : Bool} {s s' : Site β μ ο σ}
    {a : Attempt} {r : Request} (hsettle : settle h t o intercepted s = (a, r, s'))
    (hsending : Resolves trust (c.after (opening ++ asking)).request verdict
      (settle h t o intercepted s).1 (calls sending)) {es es' : List (Moment μ ο)}
    (hes : es' = es ++ opening ++ asking ++ sending) :
    ∃ b, Block.Proper trust c a b ∧
      settle h.traced t o intercepted (s.traced es') = (a, r, s'.traced (es ++ b.moments)) := by
  obtain ⟨telling, closing, htold, htelling, hclosing⟩ := settle_traced h t o intercepted s es'
  rw [hsettle] at htold htelling hclosing hsending
  rw [hwatching] at hclosing
  refine ⟨⟨opening, asking, sending, telling, closing, t.ran, verdict⟩, ?_, ?_⟩
  · refine ⟨hopening, hasking, fun hes => ?_, hsending, htelling, hclosing⟩
    rwa [← Scene.after_middlewares hes]
  · rw [htold, hes]
    simp only [Block.moments, List.append_assoc]

/-- An attempt that begins when the observers have been told of the request. -/
theorem tryAt_traced {c : Scene μ ο} {opening : List (Moment μ ο)}
    (hopening : calls opening = c.observers.map .seeRequest) {v : Visit} {m : Member}
    {s s' : Site β μ ο σ} (hscene : s.scene v.request = c.after opening) {a : Attempt} {r : Request}
    (htry : tryAt h l e v m c.observers s = .ok (a, r, s')) (es : List (Moment μ ο)) :
    ∃ b, Block.Proper l.trustForwarded c a b ∧
      tryAt h.traced l e.traced v m c.observers (s.traced (es ++ opening)) =
        .ok (a, r, s'.traced (es ++ b.moments)) := by
  unfold tryAt at htry ⊢
  rcases hrun : runMiddlewares h s.middlewares.entries v.request s with ⟨ran, verdict, r₁, s₁⟩
  obtain ⟨asking, htraced, hasking, hafter⟩ := runMiddlewares_traced h _ _ _ (es ++ opening) hrun
  rw [hscene, ← Scene.after_append] at hafter
  -- The chain is looked at after the observers have been called, the request after the middlewares.
  have hsnapshot : s.middlewares.entries = (c.after opening).middlewares := by
    rw [← hscene]
    rfl
  have hrequest : r₁ = (c.after (opening ++ asking)).request := by
    rw [← hafter]
    rfl
  rw [hsnapshot] at hasking
  simp only [hrun] at htry
  simp only [Site.traced_middlewares, htraced, Site.traced_now]
  cases verdict with
  | crash => cases htry
  | respond response =>
      obtain ⟨b, hb, htold⟩ := settle_proper l.trustForwarded [] hopening hasking rfl
        (Except.ok.inj htry) (.answered rfl rfl) (List.append_nil _).symm
      exact ⟨b, hb, congrArg Except.ok htold⟩
  | reject rejection =>
      obtain ⟨b, hb, htold⟩ := settle_proper l.trustForwarded [] hopening hasking rfl
        (Except.ok.inj htry) (.rejected rfl rfl) (List.append_nil _).symm
      exact ⟨b, hb, congrArg Except.ok htold⟩
  | pass =>
      cases hout : Outbound.ofRequest r₁ m.endpoint l.trustForwarded with
      | error err =>
          simp only [hout] at htry
          rw [hrequest] at hout
          obtain ⟨b, hb, htold⟩ := settle_proper l.trustForwarded [] hopening hasking rfl
            (Except.ok.inj htry) (.unsendable rfl hout rfl) (List.append_nil _).symm
          exact ⟨b, hb, congrArg Except.ok htold⟩
      | ok out =>
          simp only [hout] at htry
          rw [hrequest] at hout
          obtain ⟨b, hb, htold⟩ := settle_proper l.trustForwarded [⟨.send out _, _⟩] hopening
            hasking rfl (Except.ok.inj htry) (.sent rfl hout) rfl
          exact ⟨b, hb, congrArg Except.ok htold⟩

/-! ## All attempts -/

section

variable [Balancer β]

theorem Attempted.traced {v : Visit} {s s' : Site β μ ο σ} {m : Member} {a : Attempt} {r : Request}
    (ha : Attempted h l e v s m a r s') (es : List (Moment μ ο)) :
    ∃ b, Block.Proper l.trustForwarded (s.scene v.request) a b ∧
      Attempted h.traced l e.traced v (s.traced es) m a r (s'.traced (es ++ b.moments)) := by
  obtain ⟨s₁, hselect, htry⟩ := ha
  obtain ⟨opening, hannounce, hopening, hscene⟩ := announce_traced (h := h) v.request s es
  have hsame := selectEndpoint_scene v.tried v.request (announce h v.request s)
  rw [hselect, hscene] at hsame
  obtain ⟨b, hb, htraced⟩ := tryAt_traced (c := s.scene v.request) hopening (v := v.toNext m) hsame htry es
  refine ⟨b, hb, s₁.traced (es ++ opening), ?_, htraced⟩
  rw [hannounce, selectEndpoint_traced, hselect]

theorem travel_traced (hh : ∀ m r s, (h.onRequest m r s).1 ≠ .crash) (v : Visit)
    (s : Site β μ ο σ) (es : List (Moment μ ο)) :
    ∃ es', travel h.traced l e.traced v (s.traced es) = (travel h l e v s).traced (es ++ es') ∧
      Protocol l.trustForwarded (s.scene v.request) ((travel h l e v s).legs.map (·.attempt))
        (travel h l e v s).ending es' := by
  -- A journey goes on from the scene that its last rest has left, with what is written by then.
  refine travel_induction (h := h) (l := l) (e := e) (P := fun v s j => ∀ es, ∃ es',
    travel h.traced l e.traced v (s.traced es) = j.traced (es ++ es') ∧
      Protocol l.trustForwarded (s.scene v.request) (j.legs.map (·.attempt)) j.ending es')
    ?_ ?_ ?_ ?_ ?_ v s es
  · intro v s err s' hselect es
    obtain ⟨opening, hannounce, hopening, -⟩ := announce_traced (h := h) v.request s es
    obtain ⟨closing, hfail, hclosing, -⟩ := foldl_traced
      (f := fun s o => h.seeFailure o v.request err s)
      (g := fun s o => h.traced.seeFailure o v.request err s) (c := (.seeFailure · err))
      (r := v.request) (fun _ _ _ => rfl) s.observers.entries s' (es ++ opening)
    refine ⟨opening ++ closing, ?_, .unplaced hopening hclosing⟩
    rw [travel, hannounce, selectEndpoint_traced, hselect, ← List.append_assoc]
    exact congrArg (Journey.mk [] v.request (.unplaced err)) hfail
  · intro v s m s₁ s' hselect htry
    exact absurd htry (tryAt_ne_error hh)
  · intro v s m a r s' ha hretry es
    obtain ⟨b, hb, ha'⟩ := ha.traced es
    exact ⟨b.moments, ha'.travel_last hretry, .last hb⟩
  · intro v s m a r s' ha hretry hrest es
    obtain ⟨b, hb, ha'⟩ := ha.traced es
    exact ⟨b.moments, ha'.travel_overflow hretry hrest, .overflow hb⟩
  · intro v s m a r s' nanos v' s'' ha hretry hpause hv hs ih es
    obtain ⟨b, hb, ha'⟩ := ha.traced es
    obtain ⟨es', htravel, hprotocol⟩ := ih (es ++ b.moments ++ [⟨.rest, s''.scene v'.request⟩])
    refine ⟨b.moments ++ ⟨.rest, s''.scene v'.request⟩ :: es', ?_, .next hb hprotocol⟩
    have hs' : s''.traced (es ++ b.moments ++ [⟨.rest, s''.scene v'.request⟩]) =
        e.traced.rested v' nanos { s'.traced (es ++ b.moments) with
          draws := (l.failover.draw (v.made + 1) s'.draws).2 } := by
      rw [hs]
      rfl
    rw [ha'.travel_next hretry hpause hv hs', htravel]
    simp only [List.append_assoc, List.singleton_append]
    rfl

/-! ## Beginnings and ends -/

end

namespace Call

/-- The observer that is told of the beginning of an attempt. -/
def opened? : Call μ ο → Option (String × ο)
  | seeRequest o => some o
  | _ => none

/-- The observer that is told of the end of an attempt. -/
def closed? : Call μ ο → Option (String × ο)
  | seeResponse o _ => some o
  | seeFailure o _ => some o
  | _ => none

end Call

/-- No observer is called. -/
def Unwatched (cs : List (Call μ ο)) : Prop :=
  cs.filterMap Call.opened? = [] ∧ cs.filterMap Call.closed? = []

theorem Asking.unwatched {ms asked : List (String × μ)} {v : Verdict} {cs : List (Call μ ο)}
    (hasking : Asking ms asked v cs) : Unwatched cs := by
  induction hasking with
  | done => exact ⟨rfl, rfl⟩
  | pass _ ih => exact ih
  | stop _ => exact ⟨rfl, rfl⟩

theorem Resolves.unwatched {trust : Bool} {r : Request} {v : Verdict} {a : Attempt}
    {cs : List (Call μ ο)} (hresolves : Resolves trust r v a cs) : Unwatched cs := by
  cases hresolves <;> exact ⟨rfl, rfl⟩

theorem unwatched_onResponse (asked : List (String × μ)) (a : Attempt) :
    Unwatched (asked.map (Call.onResponse (ο := ο) · a)) := by
  induction asked with
  | nil => exact ⟨rfl, rfl⟩
  | cons m asked ih => exact ih

theorem opened_seeRequest (os : List (String × ο)) :
    (os.map (Call.seeRequest (μ := μ))).filterMap Call.opened? = os ∧
      (os.map (Call.seeRequest (μ := μ))).filterMap Call.closed? = [] := by
  induction os with
  | nil => exact ⟨rfl, rfl⟩
  | cons o os ih => exact ⟨congrArg (o :: ·) ih.1, ih.2⟩

/-- Observers are told of the end by calls of one kind. -/
theorem closed_map {c : String × ο → Call μ ο} (hopened : ∀ o, (c o).opened? = none)
    (hclosed : ∀ o, (c o).closed? = some o) (os : List (String × ο)) :
    (os.map c).filterMap Call.opened? = [] ∧ (os.map c).filterMap Call.closed? = os := by
  induction os with
  | nil => exact ⟨rfl, rfl⟩
  | cons o os ih =>
      rw [List.map_cons, List.filterMap_cons_none (hopened o), List.filterMap_cons_some (hclosed o),
        ih.1, ih.2]
      exact ⟨rfl, rfl⟩

theorem calls_append (es es' : List (Moment μ ο)) : calls (es ++ es') = calls es ++ calls es' :=
  List.map_append

/-- In an attempt, each observer is told of the beginning once, and of the end once. -/
theorem Block.Proper.watched {trust : Bool} {c : Scene μ ο} {a : Attempt} {b : Block μ ο}
    (hb : Block.Proper trust c a b) :
    (calls b.moments).filterMap Call.opened? = c.observers ∧
      (calls b.moments).filterMap Call.closed? = c.observers := by
  have hopening := opened_seeRequest (μ := μ) c.observers
  have hasking := hb.asking.unwatched
  have hsending := hb.sending.unwatched
  have htelling := unwatched_onResponse (ο := ο) b.asked a
  have hclosing := closed_map (c := (Call.seeResponse (μ := μ) · a)) (fun _ => rfl) (fun _ => rfl)
    c.observers
  unfold moments
  simp only [calls_append, List.filterMap_append, hb.opening, hb.telling, hb.closing]
  constructor
  · rw [hopening.1, hasking.1, hsending.1, htelling.1, hclosing.1]
    simp only [List.append_nil]
  · rw [hopening.2, hasking.2, hsending.2, htelling.2, hclosing.2]
    rfl

theorem Protocol.watched {trust : Bool} {c : Scene μ ο} {attempts : List Attempt} {ending : Ending}
    {es : List (Moment μ ο)} (hprotocol : Protocol trust c attempts ending es) :
    (calls es).filterMap Call.opened? = (calls es).filterMap Call.closed? := by
  induction hprotocol with
  | unplaced hopening hclosing =>
      rename_i c err opening closing
      have hopened := opened_seeRequest (μ := μ) c.observers
      have hclosed := closed_map (c := (Call.seeFailure (μ := μ) · err)) (fun _ => rfl) (fun _ => rfl)
        c.observers
      rw [calls_append, List.filterMap_append, List.filterMap_append, hopening, hclosing, hopened.1,
        hopened.2, hclosed.1, hclosed.2, List.append_nil, List.nil_append]
  | last hb => rw [hb.watched.1, hb.watched.2]
  | overflow hb => rw [hb.watched.1, hb.watched.2]
  | next hb _ ih =>
      rw [calls_append, List.filterMap_append, List.filterMap_append, hb.watched.1, hb.watched.2]
      exact congrArg _ ih

/-- The calls of a request make a block for each of its attempts. Writing them down changes
nothing, and each observer that is told of the beginning of an attempt is told of its end. -/
theorem roundTrip_protocol [Balancer β] (hh : ∀ m r s, (h.onRequest m r s).1 ≠ .crash)
    (l : Location) (e : Surroundings β μ ο σ) (r : Request) (s : Site β μ ο σ) :
    Leads h l e (launch h l r s) ((roundTrip h l e r s).flight, (roundTrip h l e r s).site) ∧
    Leads h.traced l e.traced (launch h.traced l r (s.traced []))
      ((roundTrip h l e r s).flight, (roundTrip h l e r s).site.traced (trace h l e r s)) ∧
    Protocol l.trustForwarded (s.scene r) ((roundTrip h l e r s).legs.map (·.attempt))
      (roundTrip h l e r s).ending (trace h l e r s) ∧
    (calls (trace h l e r s)).filterMap Call.opened? =
      (calls (trace h l e r s)).filterMap Call.closed? := by
  obtain ⟨es, htraced, hprotocol⟩ := travel_traced (l := l) (e := e) hh (Visit.first l r s) s []
  have hall : roundTrip h.traced l e.traced r (s.traced []) = (roundTrip h l e r s).traced es := htraced
  have htrace : trace h l e r s = es := by
    unfold trace
    rw [hall]
    rfl
  have hleads := leads_roundTrip (h := h.traced) (l := l) (e := e.traced) r (s.traced [])
  rw [hall] at hleads
  rw [htrace]
  exact ⟨leads_roundTrip r s, hleads, hprotocol, hprotocol.watched⟩

/-! ## A meddler -/

namespace Meddling

inductive Guest where
  | meddler
  | bystander

/-- The meddler takes itself out of its chain and lets another observer in. -/
def handlers : Handlers Offering Guest Unit Unit where
  onRequest m r s :=
    match m.2 with
    | .meddler => (.pass, r, { s with
        middlewares := (s.middlewares.remove m.1).toOption.getD s.middlewares
        observers := s.observers.update "late" () })
    | .bystander => (.pass, r, s)
  onResponse _ r _ s := (r, s)
  seeRequest _ _ s := s
  seeResponse _ _ _ s := s
  seeFailure _ _ _ s := s

def site : Site Offering Guest Unit Unit :=
  { Twins.site with
    middlewares := ⟨[("meddler", .meddler), ("bystander", .bystander)]⟩
    observers := ⟨[("early", ())]⟩ }

def moments : List (Moment Guest Unit) :=
  trace handlers (Twins.location {}) (.quiet Twins.outcome) Twins.request site

def label : Call Guest Unit → String
  | .seeRequest o => o.1 ++ " sees request"
  | .onRequest m _ => m.1 ++ " asked"
  | .send _ _ => "sent"
  | .onResponse m _ => m.1 ++ " told"
  | .seeResponse o _ => o.1 ++ " sees response"
  | .seeFailure o _ => o.1 ++ " sees failure"
  | .rest => "rest"

end Meddling

theorem roundTrip_protocol_meddling :
    (∀ m r s, (Meddling.handlers.onRequest m r s).1 ≠ .crash) ∧
    Protocol false (Meddling.site.scene Twins.request)
      ((roundTrip Meddling.handlers (Twins.location {}) (.quiet Twins.outcome) Twins.request
        Meddling.site).legs.map (·.attempt))
      (roundTrip Meddling.handlers (Twins.location {}) (.quiet Twins.outcome) Twins.request
        Meddling.site).ending Meddling.moments ∧
    (calls Meddling.moments).map Meddling.label =
      ["early sees request", "meddler asked", "bystander asked", "sent", "meddler told",
        "bystander told", "early sees response", "rest", "early sees request", "late sees request",
        "bystander asked", "sent", "bystander told", "early sees response", "late sees response"] := by
  have hcrash : ∀ m r s, (Meddling.handlers.onRequest m r s).1 ≠ .crash := by
    rintro ⟨name, guest⟩ r s
    cases guest <;> exact Verdict.noConfusion
  refine ⟨hcrash, ?_, by decide +kernel⟩
  exact (roundTrip_protocol hcrash (Twins.location {}) (.quiet Twins.outcome) Twins.request
    Meddling.site).2.2.1

end Gateway
