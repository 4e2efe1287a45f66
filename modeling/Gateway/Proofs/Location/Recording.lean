import Gateway.Proofs.Location.Journey

/-!
# Recorded journeys

Handlers and surroundings can be made to write down that they are called, and what the
request and the chains look like afterwards. What they write down changes nothing in the
way that a request takes.
-/

namespace Gateway

/-- Someone is called on the way of a request, or it rests. -/
inductive Call (μ ο : Type) where
  | seeRequest (o : String × ο)
  | onRequest (m : String × μ) (v : Verdict)
  | send (out : Outbound) (o : Outcome)
  | onResponse (m : String × μ) (a : Attempt)
  | seeResponse (o : String × ο) (a : Attempt)
  | seeFailure (o : String × ο) (e : Error)
  | rest

/-- The request and the chains as they are at one time. -/
structure Scene (μ ο : Type) where
  request : Request
  middlewares : List (String × μ)
  observers : List (String × ο)

/-- A call, and the scene that it leaves. -/
structure Moment (μ ο : Type) where
  call : Call μ ο
  scene : Scene μ ο

/-- The calls of some moments. -/
def calls {μ ο : Type} (es : List (Moment μ ο)) : List (Call μ ο) := es.map Moment.call

/-- The scene after some moments. -/
def Scene.after {μ ο : Type} (c : Scene μ ο) (es : List (Moment μ ο)) : Scene μ ο :=
  es.foldl (fun _ e => e.scene) c

/-- What the handlers share, and what has been written down. -/
structure Traced (μ ο σ : Type) where
  shared : σ
  trace : List (Moment μ ο)

variable {β μ ο σ : Type}

namespace Site

def scene (r : Request) (s : Site β μ ο σ) : Scene μ ο :=
  ⟨r, s.middlewares.entries, s.observers.entries⟩

def traced (s : Site β μ ο σ) (trace : List (Moment μ ο)) : Site β μ ο (Traced μ ο σ) :=
  { s with shared := ⟨s.shared, trace⟩ }

def plain (s : Site β μ ο (Traced μ ο σ)) : Site β μ ο σ :=
  { s with shared := s.shared.shared }

@[simp] theorem traced_pool (s : Site β μ ο σ) (t : List (Moment μ ο)) :
    (s.traced t).pool = s.pool := rfl

@[simp] theorem traced_middlewares (s : Site β μ ο σ) (t : List (Moment μ ο)) :
    (s.traced t).middlewares = s.middlewares := rfl

@[simp] theorem traced_now (s : Site β μ ο σ) (t : List (Moment μ ο)) :
    (s.traced t).now = s.now := rfl

/-- Writes down a call by which `s` became `s'` and the request became `r`. -/
def note (s : Site β μ ο (Traced μ ο σ)) (c : Call μ ο) (r : Request) (s' : Site β μ ο σ) :
    Site β μ ο (Traced μ ο σ) :=
  s'.traced (s.shared.trace ++ [⟨c, s'.scene r⟩])

end Site

def Journey.traced (j : Journey β μ ο σ) (trace : List (Moment μ ο)) :
    Journey β μ ο (Traced μ ο σ) :=
  ⟨j.legs, j.request, j.ending, j.site.traced trace⟩

def Handlers.traced (h : Handlers β μ ο σ) : Handlers β μ ο (Traced μ ο σ) where
  onRequest m r s :=
    let (v, r, s') := h.onRequest m r s.plain
    (v, r, s.note (.onRequest m v) r s')
  onResponse m r a s :=
    let (r, s') := h.onResponse m r a s.plain
    (r, s.note (.onResponse m a) r s')
  seeRequest o r s := s.note (.seeRequest o) r (h.seeRequest o r s.plain)
  seeResponse o r a s := s.note (.seeResponse o a) r (h.seeResponse o r a s.plain)
  seeFailure o r e s := s.note (.seeFailure o e) r (h.seeFailure o r e s.plain)

def Surroundings.traced (e : Surroundings β μ ο σ) : Surroundings β μ ο (Traced μ ο σ) where
  answer t out s :=
    let (o, s') := e.answer t out s.plain
    (o, s.note (.send out o) t.visit.request s')
  rested v nanos s := s.note .rest v.request (e.rested v nanos s.plain)

/-- All that is written down on the way of a request. -/
def trace [Balancer β] (h : Handlers β μ ο σ) (l : Location) (e : Surroundings β μ ο σ)
    (r : Request) (s : Site β μ ο σ) : List (Moment μ ο) :=
  (roundTrip h.traced l e.traced r (s.traced [])).site.shared.trace

/-! ## Selection -/

section

variable [Balancer β]

theorem pick_traced (s : Site β μ ο σ) (t : List (Moment μ ο)) :
    (s.traced t).pick = (s.pick.1, s.pick.2.traced t) := by
  rfl

theorem askAgain_traced (tried : List String) (n : Nat) (m : Member) (s : Site β μ ο σ)
    (t : List (Moment μ ο)) :
    askAgain tried n m (s.traced t) =
      ((askAgain tried n m s).1, (askAgain tried n m s).2.traced t) := by
  induction n generalizing m s with
  | zero => rfl
  | succ n ih =>
      unfold askAgain
      split
      · rw [pick_traced]
        rcases s.pick with ⟨err | m', s'⟩
        · rfl
        · exact ih m' s'
      · rfl

theorem selectEndpoint_traced (tried : List String) (s : Site β μ ο σ) (t : List (Moment μ ο)) :
    selectEndpoint tried (s.traced t) =
      ((selectEndpoint tried s).1, (selectEndpoint tried s).2.traced t) := by
  unfold selectEndpoint
  rw [pick_traced]
  rcases s.pick with ⟨err | m, s'⟩
  · rfl
  · simp only [Site.traced_pool, askAgain_traced]
    split
    · rfl
    · rcases askAgain tried (Balancer.members s'.pool).length m s' with ⟨err | m', s''⟩
      · rfl
      · simp only []
        split <;> rfl

theorem askAgain_scene (tried : List String) (n : Nat) (m : Member) (r : Request)
    (s : Site β μ ο σ) : (askAgain tried n m s).2.scene r = s.scene r := by
  induction n generalizing m s with
  | zero => rfl
  | succ n ih =>
      have hpick : s.pick.2.scene r = s.scene r := rfl
      unfold askAgain
      split
      · rcases hs : s.pick with ⟨err | m', s'⟩ <;> rw [hs] at hpick
        · exact hpick
        · exact (ih m' s').trans hpick
      · rfl

/-- Selection leaves the chains alone. -/
theorem selectEndpoint_scene (tried : List String) (r : Request) (s : Site β μ ο σ) :
    (selectEndpoint tried s).2.scene r = s.scene r := by
  have hpick : s.pick.2.scene r = s.scene r := rfl
  unfold selectEndpoint
  rcases hs : s.pick with ⟨err | m, s'⟩ <;> rw [hs] at hpick
  · exact hpick
  · have hask := (askAgain_scene tried (Balancer.members s'.pool).length m r s').trans hpick
    simp only []
    split
    · exact hpick
    · rcases hs' : askAgain tried (Balancer.members s'.pool).length m s' with ⟨err | m', s''⟩ <;>
        rw [hs'] at hask
      · exact hask
      · simp only []
        split <;> exact hask

end

/-! ## Rounds of calls -/

variable {h : Handlers β μ ο σ} {l : Location} {e : Surroundings β μ ο σ}

theorem Scene.after_append (c : Scene μ ο) (es es' : List (Moment μ ο)) :
    c.after (es ++ es') = (c.after es).after es' :=
  List.foldl_append

/-- Moments that leave the middlewares alone. -/
theorem Scene.after_middlewares {c : Scene μ ο} {es : List (Moment μ ο)}
    (hes : ∀ e ∈ es, e.scene.middlewares = c.middlewares) :
    (c.after es).middlewares = c.middlewares := by
  induction es generalizing c with
  | nil => rfl
  | cons e es ih =>
      have he := hes e List.mem_cons_self
      refine (ih (c := e.scene) fun e' he' => ?_).trans he
      exact (hes e' (List.mem_cons_of_mem _ he')).trans he.symm

/-- Observers are told something one after another. -/
theorem foldl_traced {f : Site β μ ο σ → String × ο → Site β μ ο σ}
    {g : Site β μ ο (Traced μ ο σ) → String × ο → Site β μ ο (Traced μ ο σ)}
    {c : String × ο → Call μ ο} {r : Request}
    (hg : ∀ s t o, g (s.traced t) o = (f s o).traced (t ++ [⟨c o, (f s o).scene r⟩]))
    (os : List (String × ο)) (s : Site β μ ο σ) (t : List (Moment μ ο)) :
    ∃ es, os.foldl g (s.traced t) = (os.foldl f s).traced (t ++ es) ∧ calls es = os.map c ∧
      (os.foldl f s).scene r = (s.scene r).after es := by
  induction os generalizing s t with
  | nil => exact ⟨[], by rw [List.append_nil]; rfl, rfl, rfl⟩
  | cons o os ih =>
      obtain ⟨es, hfold, hcalls, hscene⟩ := ih (f s o) (t ++ [⟨c o, (f s o).scene r⟩])
      refine ⟨⟨c o, (f s o).scene r⟩ :: es, ?_, congrArg (c o :: ·) hcalls, hscene⟩
      rw [List.foldl_cons, hg, hfold, List.append_assoc]
      rfl

theorem announce_traced (r : Request) (s : Site β μ ο σ) (t : List (Moment μ ο)) :
    ∃ es, announce h.traced r (s.traced t) = (announce h r s).traced (t ++ es) ∧
      calls es = s.observers.entries.map .seeRequest ∧
      (announce h r s).scene r = (s.scene r).after es :=
  foldl_traced (fun _ _ _ => rfl) s.observers.entries s t

theorem tellObservers_traced (a : Attempt) (watching : List (String × ο)) (r : Request)
    (s : Site β μ ο σ) (t : List (Moment μ ο)) :
    ∃ es, tellObservers h.traced a watching r (s.traced t) =
        (tellObservers h a watching r s).traced (t ++ es) ∧
      calls es = watching.map (.seeResponse · a) := by
  obtain ⟨es, hfold, hcalls, -⟩ := foldl_traced (f := fun s o => h.seeResponse o r a s)
    (g := fun s o => h.traced.seeResponse o r a s) (c := (.seeResponse · a)) (r := r)
    (fun _ _ _ => rfl) watching s t
  exact ⟨es, hfold, hcalls⟩

theorem onRequest_traced {m : String × μ} {r r' : Request} {s s' : Site β μ ο σ} {v : Verdict}
    (hask : h.onRequest m r s = (v, r', s')) (t : List (Moment μ ο)) :
    h.traced.onRequest m r (s.traced t) =
      (v, r', s'.traced (t ++ [⟨.onRequest m v, s'.scene r'⟩])) := by
  have hplain : (s.traced t).plain = s := rfl
  simp only [Handlers.traced, hplain, hask]
  rfl

theorem onResponse_traced {m : String × μ} {r r' : Request} {a : Attempt} {s s' : Site β μ ο σ}
    (htell : h.onResponse m r a s = (r', s')) (t : List (Moment μ ο)) :
    h.traced.onResponse m r a (s.traced t) =
      (r', s'.traced (t ++ [⟨.onResponse m a, s'.scene r'⟩])) := by
  have hplain : (s.traced t).plain = s := rfl
  simp only [Handlers.traced, hplain, htell]
  rfl

theorem tellMiddlewares_traced (a : Attempt) (ran : List (String × μ)) (r : Request)
    (s : Site β μ ο σ) (t : List (Moment μ ο)) :
    ∃ es, tellMiddlewares h.traced a ran r (s.traced t) =
        ((tellMiddlewares h a ran r s).1, (tellMiddlewares h a ran r s).2.traced (t ++ es)) ∧
      calls es = ran.map (.onResponse · a) := by
  unfold tellMiddlewares
  induction ran generalizing r s t with
  | nil => exact ⟨[], by rw [List.append_nil]; rfl, rfl⟩
  | cons m ran ih =>
      rcases htell : h.onResponse m r a s with ⟨r', s'⟩
      obtain ⟨es, hfold, hcalls⟩ := ih r' s' (t ++ [⟨.onResponse m a, s'.scene r'⟩])
      refine ⟨⟨.onResponse m a, s'.scene r'⟩ :: es, ?_, congrArg (Call.onResponse m a :: ·) hcalls⟩
      rw [List.foldl_cons, List.foldl_cons]
      simp only [htell, onResponse_traced htell, hfold, List.append_assoc, List.singleton_append]

end Gateway
