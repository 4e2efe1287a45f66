import Gateway.Proofs.Config.Building
import Gateway.Proofs.Location.Counting
import Gateway.Proofs.Location.Metering
import Gateway.Proofs.Pool.Rotation

/-!
# The books of a location

A location counts its attempts in several places: for each endpoint in the ledger, under its
name in the metrics, and in the history of each request. Whatever requests are on their way and
in whatever order they go on, the counts agree, at every moment.
-/

namespace Gateway

open Builtin

variable {β ξ ζ τ : Type} [Balancer β]

theorem attempts_perm {μ ο : Type} {N : Norm μ ο} {ds : List (Deed μ ο)}
    (hds : ∀ d ∈ ds, d.Meets N) :
    (ds.filterMap Deed.attempt?).Perm (ds.filterMap Deed.landing? ++
      ds.filterMap Deed.unsendable? ++ (ds.filterMap Deed.attempt?).filter (·.intercepted)) := by
  induction ds with
  | nil => exact List.Perm.refl _
  | cons d ds ih =>
      obtain ⟨hd, hds⟩ := List.forall_mem_cons.mp hds
      have ih := ih hds
      cases hd with
      | opened watching => exact ih
      | sent begun passed => exact ih
      | @landed t a begun passed endpoint reached answer =>
          simpa [List.filterMap_cons, Deed.attempt?, Deed.landing?, Deed.unsendable?, reached]
            using ih
      | @intercepted t a begun endpoint intercepted =>
          simp only [List.filterMap_cons, Deed.attempt?, Deed.landing?, Deed.unsendable?,
            intercepted, if_true, List.filter_cons]
          exact (ih.cons a).trans List.perm_middle.symm
      | @unsendable t a message begun passed endpoint unanswered outcome =>
          simp only [List.filterMap_cons, Deed.attempt?, Deed.landing?, Deed.unsendable?,
            unanswered, Bool.false_eq_true, if_false, List.filter_cons, List.append_assoc,
            List.cons_append]
          rw [List.append_assoc] at ih
          exact (ih.cons a).trans List.perm_middle.symm
      | unplaced watching => exact ih
      | brokeDown watching => exact ih

omit [Balancer β] in
/-- What was sent was not intercepted, and its endpoint has answered. -/
theorem Traffic.Meets.of_landing {μ ο σ : Type} {N : Norm μ ο} {T : Traffic β μ ο σ}
    (hT : T.Meets N) {a : Attempt} (ha : a ∈ T.landings) :
    a.intercepted = false ∧ N.answer a.outcome ∧
      ∃ t, N.begun t ∧ a.endpoint = t.member.endpoint := by
  obtain ⟨d, hd, ha⟩ := List.mem_filterMap.mp ha
  cases hT.deeds d hd with
  | landed begun passed endpoint reached answer =>
      obtain rfl := Option.some.inj ha
      exact ⟨reached, answer, _, begun, endpoint⟩
  | _ => cases ha

omit [Balancer β] in
theorem Traffic.Meets.of_unsendable {μ ο σ : Type} {N : Norm μ ο} {T : Traffic β μ ο σ}
    (hT : T.Meets N) {a : Attempt} (ha : a ∈ T.unsendable) :
    a.intercepted = false ∧ ∃ message, a.outcome = .error (.internal message) := by
  obtain ⟨d, hd, ha⟩ := List.mem_filterMap.mp ha
  cases hT.deeds d hd with
  | unsendable begun passed endpoint unanswered outcome =>
      simp only [Deed.unsendable?, unanswered, Bool.false_eq_true, if_false] at ha
      obtain rfl := Option.some.inj ha
      exact ⟨unanswered, _, outcome⟩
  | intercepted begun endpoint intercepted =>
      simp only [Deed.unsendable?, intercepted, if_true] at ha
      cases ha
  | _ => cases ha

/-! ## Agreement -/

namespace Builtin.Custom.Keep

variable {c : Custom β ξ ζ τ} {name : String}

omit [Balancer β] in
/-- What follows from what is left alone is left alone. -/
theorem comp {α γ : Type} {view : Workplace β ξ ζ τ → α} (hc : c.Keep view) (f : α → γ) :
    c.Keep fun s => f (view s) where
  onRequest m r s := congrArg f (hc.onRequest m r s)
  onResponse m r a s := congrArg f (hc.onResponse m r a s)
  seeRequest o r s := congrArg f (hc.seeRequest o r s)
  seeResponse o r a s := congrArg f (hc.seeResponse o r a s)
  seeFailure o r e s := congrArg f (hc.seeFailure o r e s)

end Builtin.Custom.Keep

theorem Rotation.lawful : Balancer.Lawful Rotation where
  members_next := next_members
  mem_next := by
    intro r m hnext
    have hm : r.next.1 = .ok m := hnext
    cases hget : r.members[r.cursor % r.members.length]? with
    | none =>
        simp only [next, hget] at hm
        cases hm
    | some u =>
        simp only [next, hget] at hm
        exact Except.ok.inj hm ▸ List.mem_of_getElem? hget

namespace LocationSettings

variable {s : LocationSettings} {t : Store τ} {metrics : Bool} {b : Branch Rotation ξ ζ}

theorem enrolled_branch (hids : s.ids.Nodup) (hb : b = s.branch metrics t) :
    Enrolled b.pool.members b.ledger where
  ids := by
    have hmembers : b.pool.members.map Member.id = s.ids := by
      rw [hb]
      exact map_id_seats 0 s.parsed
    exact hmembers ▸ hids
  serials := by
    have hserials : b.pool.members.map Member.serial = List.range' 0 s.parsed.length := by
      rw [hb]
      exact serial_seats 0 s.parsed
    exact hserials ▸ List.nodup_range'
  below := by
    rw [hb]
    intro m hm
    have hserial : m.serial ∈ (seats 0 s.parsed).map Member.serial := List.mem_map_of_mem hm
    rw [serial_seats, List.mem_range'_1] at hserial
    show m.serial < (List.replicate s.parsed.length Tally.zero).length
    rw [List.length_replicate]
    omega

theorem zero_branch (hb : b = s.branch metrics t) (serial : Nat) : b.ledger.get serial = .zero := by
  rw [hb]
  unfold Ledger.get branch
  simp only [List.getElem?_replicate]
  split <;> rfl

end LocationSettings

namespace Twins

/-- A location for two servers. -/
def settings : LocationSettings where
  name := "api"
  endpoints := ["http://a", "http://b"]

def branch : Branch Rotation Empty Empty := settings.branch true { extra := () }

def workplace : Workplace Rotation Empty Empty Unit :=
  branch.site 0 ⟨[]⟩ (settings.stock { extra := () })

/-- Two requests come. The second has its answer after a second, and the first then. -/
def rush : List (Traffic.Event Rotation (Middleware Empty) (Observer Empty) (Store Unit)) :=
  [.arrive request, .arrive request, .change fun s => { s with now := s.now + Duration.second },
    .answer 1 (.ok ⟨.ok, ⟨[]⟩, {}⟩), .answer 0 (.ok ⟨.internalServerError, ⟨[]⟩, {}⟩)]

/-- Only time passes from outside. -/
theorem change_mem_rush
    {f : Workplace Rotation Empty Empty Unit → Workplace Rotation Empty Empty Unit}
    (hf : .change f ∈ rush) : f = fun s => { s with now := s.now + Duration.second } := by
  simpa [rush] using hf

/-- A third request comes then. Its backend does not answer, so the other one is asked, while
a fourth request comes. -/
def crowd : List (Traffic.Event Rotation (Middleware Empty) (Observer Empty) (Store Unit)) :=
  rush ++ [.arrive request, .answer 2 (.error (.timeout Duration.second)), .wake 2,
    .arrive request]

def traffic : Traffic Rotation (Middleware Empty) (Observer Empty) (Store Unit) :=
  (Traffic.start workplace).run Custom.none.handlers branch.location crowd

end Twins

end Gateway
