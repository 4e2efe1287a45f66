import Gateway.Proofs.Breaker.History
import Mathlib.Data.List.Nodup
import Mathlib.Data.List.TakeWhile

/-!
# Stragglers

Attempts that ask a breaker to be let through report to it later, in any order. A trial
ends well with as many successes as the threshold says, whoever reports them. So a
straggler, an attempt let through before the breaker opened, counts like the attempts of
the trial, and the trial needs one of its own less.
-/

namespace Gateway.Breaker

/-- An attempt asks to be let through, or reports how it ended. -/
inductive Notice where
  | ask (time id : Nat)
  | report (time id : Nat) (a : Attempt)

namespace Notice

def hear (s : BreakerSettings) (b : Breaker) : Notice → Breaker
  | .ask time _ => (b.permit s time).2
  | .report time _ a => b.observe s time a

/-- The call that the breaker makes of a notice. An intercepted attempt does not count. -/
def call? : Notice → Option (Call Nat)
  | .ask time id => some ⟨time, .permit, id⟩
  | .report time id a =>
      if a.intercepted then none
      else some ⟨time, if isFailure a then .failure else .success, id⟩

theorem hear_eq (s : BreakerSettings) (b : Breaker) (n : Notice) :
    n.hear s b = (n.call?.map (b.take s)).getD b := by
  cases n with
  | ask time id => rfl
  | report time id a =>
      cases hi : a.intercepted with
      | true => simp [hear, observe, call?, hi]
      | false => cases hf : isFailure a <;> simp [hear, observe, call?, hi, hf, take]

end Notice

/-- A new breaker after some notices. -/
def heard (s : BreakerSettings) (notices : List Notice) : Breaker :=
  notices.foldl (Notice.hear s) .fresh

/-- The marks that notices leave, the latest first. -/
def history (s : BreakerSettings) (notices : List Notice) : List (Mark Nat) :=
  (chronicle s (notices.filterMap Notice.call?)).marks

theorem heard_eq (s : BreakerSettings) (notices : List Notice) :
    heard s notices = (chronicle s (notices.filterMap Notice.call?)).breaker := by
  induction notices using List.reverseRecOn with
  | nil => rfl
  | append_singleton notices n ih =>
      have hheard : heard s (notices ++ [n]) = n.hear s (heard s notices) := by
        unfold heard
        rw [List.foldl_append]
        rfl
      rw [hheard, Notice.hear_eq, ih, List.filterMap_append]
      cases hn : n.call? with
      | none => simp [hn]
      | some c =>
          have hlast : [n].filterMap Notice.call? = [c] := by simp [hn]
          rw [hlast, chronicle_concat]
          rfl

variable {ι : Type} {s : BreakerSettings}

/-! ## Order -/

/-- Someone is let through. -/
def Mark.admits (m : Mark ι) : Bool := m.call.kind = .permit && m.after ≠ .opened

/-- A call that is in order: everyone asks once, and reports at most once, after having been
let through. -/
structure InOrder (m : Mark ι) (earlier : List (Mark ι)) : Prop where
  asks_once : m.call.kind = .permit → ∀ x ∈ earlier, x.call.caller ≠ m.call.caller
  admitted : m.call.kind ≠ .permit → ∃ x ∈ earlier, x.admits ∧ x.call.caller = m.call.caller
  reports_once : m.call.kind ≠ .permit →
    ∀ x ∈ earlier, x.call.kind ≠ .permit → x.call.caller ≠ m.call.caller

instance [DecidableEq ι] (m : Mark ι) (earlier : List (Mark ι)) : Decidable (InOrder m earlier) :=
  decidable_of_iff
    ((m.call.kind = .permit → ∀ x ∈ earlier, x.call.caller ≠ m.call.caller) ∧
      (m.call.kind ≠ .permit → ∃ x ∈ earlier, x.admits ∧ x.call.caller = m.call.caller) ∧
      (m.call.kind ≠ .permit → ∀ x ∈ earlier, x.call.kind ≠ .permit → x.call.caller ≠ m.call.caller))
    ⟨fun h => ⟨h.1, h.2.1, h.2.2⟩, fun h => ⟨h.asks_once, h.admitted, h.reports_once⟩⟩

def Orderly : List (Mark ι) → Prop
  | [] => True
  | m :: earlier => InOrder m earlier ∧ Orderly earlier

instance decidableOrderly [DecidableEq ι] : (marks : List (Mark ι)) → Decidable (Orderly marks)
  | [] => inferInstanceAs (Decidable True)
  | m :: earlier =>
      have := decidableOrderly earlier
      inferInstanceAs (Decidable (InOrder m earlier ∧ Orderly earlier))

/-- The circuit at the end of a history. -/
def circuitAfter (marks : List (Mark ι)) : Circuit :=
  (marks.head?.map Mark.after).getD .closed

/-- Every mark begins with the circuit that is left by those before, and changes it only in
the ways that they tell. -/
def Linked (s : BreakerSettings) : List (Mark ι) → Prop
  | [] => True
  | m :: earlier => Linked s earlier ∧ m.before = circuitAfter earlier ∧
      (m.after ≠ m.before → Turn s earlier m.call m.before m.after)

theorem Linked.of_append {later earlier : List (Mark ι)} (h : Linked s (later ++ earlier)) :
    Linked s earlier := by
  induction later with
  | nil => exact h
  | cons m later ih => exact ih h.1

theorem Orderly.of_append {later earlier : List (Mark ι)} (h : Orderly (later ++ earlier)) :
    Orderly earlier := by
  induction later with
  | nil => exact h
  | cons m later ih => exact ih h.2

theorem circuitAfter_chronicle (s : BreakerSettings) (calls : List (Call ι)) :
    circuitAfter (chronicle s calls).marks = (chronicle s calls).breaker.circuit := by
  induction calls using List.reverseRecOn with
  | nil => rfl
  | append_singleton calls c ih =>
      rw [chronicle_concat]
      rfl

theorem linked_chronicle (hs : 1 ≤ s.failureThreshold) (hs' : 1 ≤ s.successThreshold)
    (calls : List (Call ι)) : Linked s (chronicle s calls).marks := by
  induction calls using List.reverseRecOn with
  | nil => trivial
  | append_singleton calls c ih =>
      rw [chronicle_concat]
      refine ⟨ih, (circuitAfter_chronicle s calls).symm, ?_⟩
      exact (counts_chronicle hs hs' calls).turn (take_effect s c _)

/-! ## Periods -/

/-- A trial under way has begun. -/
theorem Linked.exists_begin {marks : List (Mark ι)} (h : Linked s marks)
    (htrial : circuitAfter marks = .halfOpen) :
    ∃ first before, marks = sinceTrial marks ++ first :: before ∧ first.begins ∧
      circuitAfter before = .opened := by
  induction marks with
  | nil => cases htrial
  | cons m earlier ih =>
      obtain ⟨hearlier, hbefore, hturn⟩ := h
      have hafter : m.after = .halfOpen := htrial
      rw [sinceTrial_cons]
      cases hm : m.begins with
      | true =>
          refine ⟨m, earlier, rfl, hm, ?_⟩
          have hne : m.before ≠ .halfOpen := by
            simp [Mark.begins] at hm
            exact hm.1
          rw [hafter] at hturn
          generalize m.before = circuit at hbefore hturn hne
          cases hturn hne.symm with
          | tries => exact hbefore.symm
      | false =>
          have hsame : m.before = .halfOpen := by
            simpa [Mark.begins, hafter] using hm
          obtain ⟨first, before, hsplit, hbegins, hopen⟩ := ih hearlier (hbefore.symm.trans hsame)
          exact ⟨first, before, congrArg (m :: ·) hsplit, hbegins, hopen⟩

/-- A breaker that is open has opened, and nobody has been let through since. -/
theorem Linked.exists_opening {marks : List (Mark ι)} (h : Linked s marks)
    (hopen : circuitAfter marks = .opened) :
    ∃ during opening before, marks = during ++ opening :: before ∧
      (∀ x ∈ during, x.before = .opened ∧ x.after = .opened) ∧ opening.before ≠ .opened ∧
      opening.after = .opened := by
  induction marks with
  | nil => cases hopen
  | cons m earlier ih =>
      obtain ⟨hearlier, hbefore, -⟩ := h
      have hafter : m.after = .opened := hopen
      by_cases hm : m.before = .opened
      · obtain ⟨during, opening, before, rfl, hduring, hopening⟩ := ih hearlier (hbefore.symm.trans hm)
        refine ⟨m :: during, opening, before, rfl, ?_, hopening⟩
        intro x hx
        rcases List.mem_cons.mp hx with rfl | hx
        · exact ⟨hm, hafter⟩
        · exact hduring x hx
      · exact ⟨[], m, earlier, rfl, fun x hx => absurd hx List.not_mem_nil, hm, hafter⟩

/-! ## Who ends a trial -/

/-- Those who were let through. -/
def admitted (marks : List (Mark ι)) : List ι := (marks.filter Mark.admits).map (·.call.caller)

/-- Those who reported a success. -/
def succeeded (marks : List (Mark ι)) : List ι := (marks.filter Mark.isSuccess).map (·.call.caller)

theorem Mark.kind_ne_permit {m : Mark ι} (hm : m.isSuccess = true) : m.call.kind ≠ .permit := by
  have hkind : m.call.kind = .success := by simpa [isSuccess] using hm
  rw [hkind]
  exact Kind.noConfusion

theorem Orderly.nodup_succeeded {marks : List (Mark ι)} (h : Orderly marks) :
    (succeeded marks).Nodup := by
  induction marks with
  | nil => exact List.nodup_nil
  | cons m earlier ih =>
      obtain ⟨hm, hearlier⟩ := h
      unfold succeeded
      rw [List.filter_cons]
      split_ifs with hsuccess
      · refine List.nodup_cons.mpr ⟨?_, ih hearlier⟩
        intro hmem
        obtain ⟨x, hx, heq⟩ := List.mem_map.mp hmem
        obtain ⟨hx, hxsuccess⟩ := List.mem_filter.mp hx
        exact hm.reports_once (Mark.kind_ne_permit hsuccess) x hx (Mark.kind_ne_permit hxsuccess) heq
      · exact ih hearlier

theorem Orderly.admitted_of_succeeded {marks : List (Mark ι)} (h : Orderly marks) {i : ι}
    (hi : i ∈ succeeded marks) : i ∈ admitted marks := by
  obtain ⟨m, hm, rfl⟩ := List.mem_map.mp hi
  obtain ⟨hm, hsuccess⟩ := List.mem_filter.mp hm
  obtain ⟨later, earlier, rfl⟩ := List.append_of_mem hm
  obtain ⟨x, hx, hadmits, heq⟩ := h.of_append.1.admitted (Mark.kind_ne_permit hsuccess)
  refine List.mem_map.mpr ⟨x, List.mem_filter.mpr ⟨?_, hadmits⟩, heq⟩
  exact List.mem_append_right _ (List.mem_cons_of_mem _ hx)

theorem admitted_append (marks marks' : List (Mark ι)) :
    admitted (marks ++ marks') = admitted marks ++ admitted marks' := by
  unfold admitted
  rw [List.filter_append, List.map_append]

theorem admitted_cons_of_opened {m : Mark ι} (hm : m.after = .opened) (marks : List (Mark ι)) :
    admitted (m :: marks) = admitted marks := by
  unfold admitted
  rw [List.filter_cons_of_neg]
  simp [Mark.admits, hm]

/-- While the breaker is open, nobody is let through. -/
theorem admitted_of_opened {marks : List (Mark ι)}
    (h : ∀ x ∈ marks, x.before = .opened ∧ x.after = .opened) : admitted marks = [] := by
  induction marks with
  | nil => rfl
  | cons m marks ih =>
      rw [admitted_cons_of_opened (h m List.mem_cons_self).2]
      exact ih fun x hx => h x (List.mem_cons_of_mem _ hx)

/-- Someone was let through before the breaker opened for the last time. -/
def Straggles (i : ι) (marks : List (Mark ι)) : Prop :=
  ∃ during opening before, marks = during ++ opening :: before ∧
    (∀ x ∈ during, x.before = .opened ∧ x.after = .opened) ∧ opening.before ≠ .opened ∧
    opening.after = .opened ∧ i ∈ admitted before

theorem Linked.straggles {marks : List (Mark ι)} (h : Linked s marks)
    (hopen : circuitAfter marks = .opened) {i : ι} (hi : i ∈ admitted marks) :
    Straggles i marks := by
  obtain ⟨during, opening, before, rfl, hduring, hclosed, hopened⟩ := h.exists_opening hopen
  refine ⟨during, opening, before, rfl, hduring, hclosed, hopened, ?_⟩
  rwa [admitted_append, admitted_of_opened hduring, List.nil_append,
    admitted_cons_of_opened hopened] at hi

/-- How a trial ends that began with `first`, after `before`: the mark `m` closes the
breaker after what has happened `since`. -/
structure Closing [DecidableEq ι] (s : BreakerSettings) (m : Mark ι) (since : List (Mark ι))
    (first : Mark ι) (before : List (Mark ι)) : Prop where
  /-- Exactly as many attempts as are needed have reported a success in the trial. -/
  distinct : (succeeded (m :: since)).Nodup
  length_eq : (succeeded (m :: since)).length = s.successThreshold
  /-- Those let through in the trial are enough by themselves only if there are no others. -/
  own_iff : s.successThreshold ≤
      ((succeeded (m :: since)).filter (· ∈ admitted (since ++ [first]))).length ↔
    ∀ i ∈ succeeded (m :: since), i ∈ admitted (since ++ [first])
  /-- All others are stragglers. -/
  straggles : ∀ i ∈ succeeded (m :: since), i ∉ admitted (since ++ [first]) → Straggles i before

theorem closing_of_linked [DecidableEq ι] {m : Mark ι} {earlier : List (Mark ι)}
    (hlinked : Linked s (m :: earlier)) (horderly : Orderly (m :: earlier))
    (hbefore : m.before = .halfOpen) (hafter : m.after = .closed) :
    ∃ since first before, earlier = since ++ first :: before ∧ first.begins ∧
      (∀ x ∈ since, ¬ x.begins) ∧ Closing s m since first before := by
  obtain ⟨hearlier, hcircuit, hturn⟩ := hlinked
  rw [hbefore] at hcircuit hturn
  rw [hafter] at hturn
  obtain ⟨hkind, hcount⟩ : m.call.kind = .success ∧
      (sinceTrial earlier).countP Mark.isSuccess + 1 = s.successThreshold := by
    cases hturn Circuit.noConfusion with
    | closes hkind hcount => exact ⟨hkind, hcount⟩
  obtain ⟨first, before, hsplit, hbegins, hopen⟩ := hearlier.exists_begin hcircuit.symm
  have hnone : ∀ x ∈ sinceTrial earlier, ¬ x.begins := by
    intro x hx
    simpa using List.mem_takeWhile_imp hx
  generalize sinceTrial earlier = since at hcount hsplit hnone
  subst hsplit
  have hsublist : (succeeded (m :: since)).Sublist (succeeded (m :: (since ++ first :: before))) :=
    ((List.sublist_append_left since _).cons_cons m).filter _ |>.map _
  have hlength : (succeeded (m :: since)).length = s.successThreshold := by
    rw [← hcount, succeeded, List.length_map, ← List.countP_eq_length_filter,
      List.countP_cons_of_pos (by simp [Mark.isSuccess, hkind])]
  refine ⟨since, first, before, rfl, hbegins, hnone, ?_, hlength, ?_, ?_⟩
  · exact horderly.nodup_succeeded.sublist hsublist
  · rw [← hlength, (List.length_filter_le _ _).ge_iff_eq, List.length_filter_eq_length_iff]
    simp only [decide_eq_true_eq]
  · intro i hi hnot
    have hfirst : Linked s (first :: before) := hearlier.of_append
    refine hfirst.1.straggles hopen ?_
    have hadmitted := horderly.admitted_of_succeeded (hsublist.subset hi)
    have hsplit : admitted (m :: (since ++ first :: before)) =
        admitted (since ++ [first]) ++ admitted before := by
      rw [← admitted_append, List.append_assoc, List.singleton_append]
      unfold admitted
      rw [List.filter_cons_of_neg (by simp [Mark.admits, hkind])]
    rw [hsplit] at hadmitted
    exact (List.mem_append.mp hadmitted).resolve_left hnot

/-- A trial that ends well has had as many successes as the threshold says. They are those of
its own attempts only if no straggler is among them. -/
theorem closing_of_orderly (hs : 1 ≤ s.failureThreshold) (hs' : 1 ≤ s.successThreshold)
    (notices : List Notice) (horderly : Orderly (history s notices)) :
    circuitAfter (history s notices) = (heard s notices).circuit ∧
    ∀ later m earlier, history s notices = later ++ m :: earlier →
      m.before = .halfOpen → m.after = .closed →
      ∃ since first before, earlier = since ++ first :: before ∧ first.begins ∧
        (∀ x ∈ since, ¬ x.begins) ∧ Closing s m since first before := by
  refine ⟨?_, fun later m earlier hsplit hbefore hafter => ?_⟩
  · rw [heard_eq]
    exact circuitAfter_chronicle s _
  · have hlinked : Linked s (history s notices) := linked_chronicle hs hs' _
    rw [hsplit] at hlinked horderly
    exact closing_of_linked hlinked.of_append horderly.of_append hbefore hafter

/-! ## A rush -/

namespace Rush

/-- One failure opens the breaker, and two successes close it. -/
def settings : BreakerSettings where
  failureThreshold := 1
  successThreshold := 2
  timeout := 0

def attempt (status : Status) : Attempt where
  endpoint := ⟨.http, .domain "a", 80, "http://a/"⟩
  outcome := .ok (.ofBody status .empty [])
  duration := 0
  intercepted := false

/-- Two attempts are let through, and the failure of the second opens the breaker. A third one
begins the trial and succeeds; then the first one succeeds, too. -/
def notices : List Notice :=
  [.ask 0 1, .ask 0 2, .report 10 2 (attempt .internalServerError), .ask 20 3,
    .report 25 3 (attempt .ok), .report 50 1 (attempt .ok)]

def marks : List (Mark Nat) :=
  [⟨⟨50, .success, 1⟩, .halfOpen, .closed⟩, ⟨⟨25, .success, 3⟩, .halfOpen, .halfOpen⟩,
    ⟨⟨20, .permit, 3⟩, .opened, .halfOpen⟩, ⟨⟨10, .failure, 2⟩, .closed, .opened⟩,
    ⟨⟨0, .permit, 2⟩, .closed, .closed⟩, ⟨⟨0, .permit, 1⟩, .closed, .closed⟩]

theorem history_eq : history settings notices = marks := by
  decide

theorem orderly : Orderly (history settings notices) := by
  rw [history_eq]
  decide

end Rush

theorem closing_of_orderly_rush :
    1 ≤ Rush.settings.failureThreshold ∧ 1 ≤ Rush.settings.successThreshold ∧
    Orderly (history Rush.settings Rush.notices) ∧
    ∃ m earlier, history Rush.settings Rush.notices = m :: earlier ∧
      m.before = .halfOpen ∧ m.after = .closed ∧
      ∃ since first before, earlier = since ++ first :: before ∧ first.begins ∧
        (∀ x ∈ since, ¬ x.begins) ∧ Closing Rush.settings m since first before := by
  have hclosing := closing_of_orderly (by decide) (by decide) Rush.notices Rush.orderly
  exact ⟨by decide, by decide, Rush.orderly, _, _, Rush.history_eq, rfl, rfl,
    hclosing.2 [] _ _ Rush.history_eq rfl rfl⟩

/-- A straggler ends a trial in which only one of the two attempts needed was its own. -/
theorem straggler_closes :
    Orderly (history Rush.settings Rush.notices) ∧
    ∃ m since first before,
      history Rush.settings Rush.notices = m :: (since ++ first :: before) ∧
      m.before = .halfOpen ∧ m.after = .closed ∧ first.begins ∧ (∀ x ∈ since, ¬ x.begins) ∧
      ¬ Rush.settings.successThreshold ≤
        ((succeeded (m :: since)).filter (· ∈ admitted (since ++ [first]))).length := by
  refine ⟨Rush.orderly, ⟨⟨50, .success, 1⟩, .halfOpen, .closed⟩,
    [⟨⟨25, .success, 3⟩, .halfOpen, .halfOpen⟩], ⟨⟨20, .permit, 3⟩, .opened, .halfOpen⟩, _,
    Rush.history_eq, rfl, rfl, by decide, by decide, by decide⟩

end Gateway.Breaker
