import Gateway.Pool.Rotation
import Mathlib.Data.List.Basic
import Mathlib.Data.List.Nodup
import Mathlib.Data.List.Rotate

/-!
# Turns in a rotation

A rotation is a queue: the endpoint whose turn it is goes to the back, an endpoint that
leaves does so without a change to the order of the others, and a new one comes behind
the last of the list. Two endpoints that stay therefore take turns with each other,
whatever happens to the rest of the pool.
-/

namespace Gateway.Rotation

/-- What is asked of a pool. -/
inductive Action where
  | next
  | add (m : Member)
  | remove (id : String)
  deriving DecidableEq, Repr

/-- The pool after an action; one that fails leaves it as it was. -/
def step (r : Rotation) : Action → Rotation
  | .next => r.next.2
  | .add m =>
      match r.add m with
      | .ok r => r
      | .error _ => r
  | .remove id =>
      match r.remove id with
      | .ok r => r
      | .error _ => r

/-- The endpoint that an action selects. -/
def selected? (r : Rotation) : Action → Option Member
  | .next => r.next.1.toOption
  | .add _ => none
  | .remove _ => none

def run (r : Rotation) (as : List Action) : Rotation := as.foldl step r

/-- The endpoints that are selected in the course of some actions. -/
def selections (r : Rotation) : List Action → List Member
  | [] => []
  | a :: as => (r.selected? a).toList ++ (r.step a).selections as

theorem step_add (r : Rotation) (m : Member) :
    r.add m = .ok (r.step (.add m)) ∨ r.step (.add m) = r := by
  simp only [step]
  cases r.add m with
  | ok r' => exact Or.inl rfl
  | error e => exact Or.inr rfl

theorem step_remove (r : Rotation) (id : String) :
    r.remove id = .ok (r.step (.remove id)) ∨ r.step (.remove id) = r := by
  simp only [step]
  cases r.remove id with
  | ok r' => exact Or.inl rfl
  | error e => exact Or.inr rfl

/-- An endpoint is in the pool before, between and after some actions. -/
def Stays (m : Member) (r : Rotation) (as : List Action) : Prop :=
  ∀ before, before <+: as → m ∈ (r.run before).members

/-! ## What every pool has -/

/-- Ids are distinct, and the cursor points into the list. -/
structure Sound (r : Rotation) : Prop where
  distinct : (r.members.map Member.id).Nodup
  cursor_valid : r.cursor = 0 ∨ r.cursor < r.members.length

theorem Sound.cursor_le {r : Rotation} (h : r.Sound) : r.cursor ≤ r.members.length := by
  rcases h.cursor_valid with h | h <;> omega

theorem sound_empty : empty.Sound := ⟨List.nodup_nil, Or.inl rfl⟩

theorem upcoming_perm (r : Rotation) : r.upcoming.Perm r.members := by
  unfold upcoming
  exact List.perm_append_comm.trans (by rw [List.take_append_drop])

theorem mem_upcoming {r : Rotation} {m : Member} : m ∈ r.upcoming ↔ m ∈ r.members :=
  r.upcoming_perm.mem_iff

theorem Sound.nodup_upcoming {r : Rotation} (h : r.Sound) : r.upcoming.Nodup :=
  (r.upcoming_perm.nodup_iff).mpr h.distinct.of_map

/-! ## The pool as a queue -/

theorem next_of_empty {r : Rotation} (h : r.members = []) : r.next = (.error .noEndpoint, r) := by
  unfold next
  rw [h]
  rfl

/-- A pool with the cursor in its list, and what a selection makes of it. -/
theorem next_eq {r : Rotation} {m : Member} {before after : List Member}
    (hmembers : r.members = before ++ m :: after) (hcursor : r.cursor = before.length) :
    r.next = (.ok m, { r with cursor := (before.length + 1) % r.members.length }) := by
  have hlt : r.cursor < r.members.length := by
    rw [hcursor, hmembers, List.length_append, List.length_cons]
    omega
  have hget : r.members[before.length]? = some m := by
    rw [hmembers]
    simp
  unfold next
  rw [Nat.mod_eq_of_lt hlt, hcursor]
  simp only [hget]

theorem Sound.cursor_lt {r : Rotation} (h : r.Sound) (hne : r.members ≠ []) :
    r.cursor < r.members.length := by
  rcases h.cursor_valid with h | h
  · rw [h]
    exact List.length_pos_iff.mpr hne
  · exact h

theorem Sound.split {r : Rotation} (h : r.Sound) (hne : r.members ≠ []) :
    ∃ before m after, r.members = before ++ m :: after ∧ r.cursor = before.length := by
  have hlt := h.cursor_lt hne
  refine ⟨r.members.take r.cursor, r.members[r.cursor], r.members.drop (r.cursor + 1), ?_, ?_⟩
  · rw [← List.drop_eq_getElem_cons hlt, List.take_append_drop]
  · rw [List.length_take]
    omega

theorem upcoming_of_split {r : Rotation} {before after : List Member}
    (hmembers : r.members = before ++ after) (hcursor : r.cursor = before.length) :
    r.upcoming = after ++ before := by
  unfold upcoming
  rw [hmembers, hcursor]
  simp

theorem next_upcoming {r : Rotation} (h : r.Sound) {m : Member} {rest : List Member}
    (hup : r.upcoming = m :: rest) :
    r.next.1 = .ok m ∧ r.next.2.upcoming = rest ++ [m] ∧ r.next.2.members = r.members := by
  have hne : r.members ≠ [] := by
    intro hnil
    have := mem_upcoming.mp (hup ▸ List.mem_cons_self : m ∈ r.upcoming)
    rw [hnil] at this
    exact absurd this List.not_mem_nil
  obtain ⟨before, m', after, hmembers, hcursor⟩ := h.split hne
  rw [upcoming_of_split hmembers hcursor, List.cons_append, List.cons.injEq] at hup
  obtain ⟨rfl, rfl⟩ := hup
  rw [next_eq hmembers hcursor]
  refine ⟨rfl, ?_, rfl⟩
  rw [hmembers, List.length_append, List.length_cons]
  cases after with
  | nil =>
      -- Behind the last of the list, the cursor starts over.
      rw [List.length_nil, Nat.mod_self]
      simp [upcoming]
  | cons a after =>
      rw [List.length_cons, Nat.mod_eq_of_lt (by omega)]
      rw [upcoming_of_split (List.append_cons before m' (a :: after)) (by simp)]
      simp

theorem remove_eq {r : Rotation} {id : String} {before after : List Member} {m : Member}
    (hmembers : r.members = before ++ m :: after) (hid : m.id = id)
    (hfirst : ∀ u ∈ before, u.id ≠ id) :
    r.remove id = .ok {
      members := before ++ after
      cursor :=
        let cursor := if before.length < r.cursor then r.cursor - 1 else r.cursor
        if (before ++ after).length ≤ cursor then 0 else cursor } := by
  have hindex : r.members.findIdx? (·.id = id) = some before.length := by
    rw [hmembers, List.findIdx?_append, List.findIdx?_eq_none_iff.mpr (by simpa using hfirst)]
    simp [List.findIdx?_cons, hid]
  have herase : r.members.eraseIdx before.length = before ++ after := by
    rw [hmembers, List.eraseIdx_append_of_length_le (Nat.le_refl _)]
    simp
  unfold remove
  rw [hindex]
  simp only [herase]

/-- An id that can be removed belongs to a member, behind others. -/
theorem exists_split_of_remove {r r' : Rotation} {id : String} (h : r.remove id = .ok r') :
    ∃ before m after, r.members = before ++ m :: after ∧ m.id = id ∧ ∀ u ∈ before, u.id ≠ id := by
  unfold remove at h
  cases hindex : r.members.findIdx? (·.id = id) with
  | none =>
      rw [hindex] at h
      cases h
  | some index =>
      obtain ⟨hlt, hid, hfirst⟩ := List.findIdx?_eq_some_iff_getElem.mp hindex
      refine ⟨r.members.take index, r.members[index], r.members.drop (index + 1), ?_, ?_, ?_⟩
      · rw [← List.drop_eq_getElem_cons hlt, List.take_append_drop]
      · simpa using hid
      · intro u hu
        obtain ⟨j, hj, rfl⟩ := List.mem_take_iff_getElem.mp hu
        simpa using hfirst j (by omega)

/-- Whoever leaves is missing from the queue, which is otherwise as before. -/
theorem remove_upcoming {r r' : Rotation} (h : r.Sound) {id : String}
    (hremove : r.remove id = .ok r') :
    ∃ before m after, m.id = id ∧ r.upcoming = before ++ m :: after ∧
      r'.upcoming = before ++ after := by
  obtain ⟨before, m, after, hmembers, hid, hfirst⟩ := exists_split_of_remove hremove
  have hcursor := h.cursor_valid
  rw [hmembers, List.length_append, List.length_cons] at hcursor
  rw [remove_eq hmembers hid hfirst, Except.ok.injEq] at hremove
  subst hremove
  unfold upcoming
  rw [hmembers]
  by_cases hlt : before.length < r.cursor
  · -- The cursor is behind the one that leaves, and moves with the others.
    obtain ⟨k, hk⟩ : ∃ k, r.cursor = before.length + (k + 1) := ⟨r.cursor - before.length - 1, by omega⟩
    refine ⟨after.drop k ++ before, m, after.take k, hid, ?_, ?_⟩
    · rw [hk, List.drop_length_add_append, List.take_length_add_append]
      simp
    · have hin : ¬ (before ++ after).length ≤ r.cursor - 1 := by
        rw [List.length_append]
        omega
      simp only [if_pos hlt, if_neg hin]
      rw [hk, ← Nat.add_assoc, Nat.add_sub_cancel, List.drop_length_add_append,
        List.take_length_add_append]
      simp
  · -- The cursor is before the one that leaves, or at it.
    have hle : r.cursor ≤ before.length := by omega
    refine ⟨before.drop r.cursor, m, after ++ before.take r.cursor, hid, ?_, ?_⟩
    · rw [List.drop_append_of_le_length hle, List.take_append_of_le_length hle]
      simp
    · simp only [if_neg hlt]
      by_cases hend : (before ++ after).length ≤ r.cursor
      · rw [List.length_append] at hend
        have hafter : after = [] := List.length_eq_zero_iff.mp (by omega)
        have heq : r.cursor = before.length := by omega
        rw [if_pos (by rw [List.length_append]; exact hend), hafter, heq]
        simp
      · rw [if_neg hend, List.drop_append_of_le_length hle, List.take_append_of_le_length hle]
        simp

theorem add_eq {r r' : Rotation} {m : Member} (hadd : r.add m = .ok r') :
    (∀ u ∈ r.members, u.id ≠ m.id) ∧ r' = { r with members := r.members ++ [m] } := by
  unfold add addMember at hadd
  by_cases htaken : r.members.any (·.id = m.id)
  · rw [if_pos htaken] at hadd
    cases hadd
  · rw [if_neg htaken] at hadd
    refine ⟨?_, (Except.ok.inj hadd).symm⟩
    simpa using htaken

/-- Whoever comes is behind the last of the list. -/
theorem add_upcoming {r r' : Rotation} (h : r.Sound) {m : Member} (hadd : r.add m = .ok r') :
    ∃ before after, r.upcoming = before ++ after ∧ before.getLast? = r.members.getLast? ∧
      r'.upcoming = before ++ m :: after ∧ r'.members = r.members ++ [m] := by
  obtain ⟨-, rfl⟩ := add_eq hadd
  refine ⟨r.members.drop r.cursor, r.members.take r.cursor, rfl, ?_, ?_, rfl⟩
  · rw [List.getLast?_drop]
    rcases h.cursor_valid with h0 | hlt
    · by_cases hnil : r.members = []
      · simp [hnil]
      · rw [if_neg]
        rw [h0]
        have := List.length_pos_iff.mpr hnil
        omega
    · rw [if_neg (by omega)]
  · unfold upcoming
    rw [List.drop_append_of_le_length h.cursor_le, List.take_append_of_le_length h.cursor_le]
    simp

/-! ## Every run keeps the pool sound -/

theorem Sound.next {r : Rotation} (h : r.Sound) : r.next.2.Sound := by
  by_cases hnil : r.members = []
  · rw [next_of_empty hnil]
    exact h
  · obtain ⟨before, m, after, hmembers, hcursor⟩ := h.split hnil
    rw [next_eq hmembers hcursor]
    exact ⟨h.distinct, Or.inr (Nat.mod_lt _ (List.length_pos_iff.mpr hnil))⟩

theorem Sound.add {r r' : Rotation} (h : r.Sound) {m : Member} (hadd : r.add m = .ok r') :
    r'.Sound := by
  obtain ⟨hfree, rfl⟩ := add_eq hadd
  constructor
  · rw [List.map_append, List.map_singleton, List.nodup_append]
    refine ⟨h.distinct, List.nodup_singleton _, ?_⟩
    intro a ha b hb hab
    obtain ⟨u, hu, rfl⟩ := List.mem_map.mp ha
    rw [List.mem_singleton] at hb
    exact hfree u hu (hab.trans hb)
  · rcases h.cursor_valid with h0 | hlt
    · exact Or.inl h0
    · right
      show r.cursor < (r.members ++ [m]).length
      rw [List.length_append]
      omega

theorem Sound.remove {r r' : Rotation} (h : r.Sound) {id : String}
    (hremove : r.remove id = .ok r') : r'.Sound := by
  obtain ⟨before, m, after, hmembers, hid, hfirst⟩ := exists_split_of_remove hremove
  have hdistinct := h.distinct
  rw [hmembers, List.map_append, List.map_cons] at hdistinct
  rw [remove_eq hmembers hid hfirst, Except.ok.injEq] at hremove
  subst hremove
  constructor
  · rw [List.map_append]
    exact (List.nodup_middle.mp hdistinct).of_cons
  · by_cases hend : (before ++ after).length ≤
        (if before.length < r.cursor then r.cursor - 1 else r.cursor)
    · exact Or.inl (if_pos hend)
    · right
      simp only [if_neg hend]
      omega

theorem Sound.step {r : Rotation} (h : r.Sound) (a : Action) : (r.step a).Sound := by
  cases a with
  | next => exact h.next
  | add m =>
      rcases r.step_add m with hadd | hsame
      · exact h.add hadd
      · exact hsame.symm ▸ h
  | remove id =>
      rcases r.step_remove id with hremove | hsame
      · exact h.remove hremove
      · exact hsame.symm ▸ h

theorem Sound.run {r : Rotation} (h : r.Sound) (as : List Action) : (r.run as).Sound := by
  induction as generalizing r with
  | nil => exact h
  | cons a as ih => exact ih (h.step a)

/-! ## Two endpoints that stay -/

theorem Stays.here {m : Member} {r : Rotation} {as : List Action} (h : Stays m r as) :
    m ∈ r.members :=
  h [] (List.nil_prefix)

theorem Stays.tail {m : Member} {r : Rotation} {a : Action} {as : List Action}
    (h : Stays m r (a :: as)) : Stays m (r.step a) as := by
  intro before hbefore
  exact h (a :: before) ((List.cons_prefix_cons).mpr ⟨rfl, hbefore⟩)

/-- A selection sends nobody away. -/
theorem next_members (r : Rotation) : r.next.2.members = r.members := by
  simp only [next]
  cases r.members[r.cursor % r.members.length]? with
  | none => rfl
  | some m => rfl

theorem run_concat (r : Rotation) (as : List Action) (a : Action) :
    r.run (as ++ [a]) = (r.run as).step a := by
  unfold run
  rw [List.foldl_append]
  rfl

theorem Stays.concat_next {m : Member} {r : Rotation} {as : List Action} (h : Stays m r as) :
    Stays m r (as ++ [.next]) := by
  intro before hbefore
  rcases List.prefix_concat_iff.mp hbefore with rfl | hbefore
  · rw [run_concat]
    show m ∈ (r.run as).next.2.members
    rw [next_members]
    exact h as (List.prefix_refl as)
  · exact h before hbefore

/-- Two endpoints in turn, `n` times in all. -/
def inTurn (e f : Member) : Nat → List Member
  | 0 => []
  | n + 1 => e :: inTurn f e n

/-- The selections of two endpoints among others. -/
def ofPair (e f : Member) (ms : List Member) : List Member :=
  ms.filter fun m => m = e ∨ m = f

theorem ofPair_comm (e f : Member) (ms : List Member) : ofPair e f ms = ofPair f e ms := by
  unfold ofPair
  exact List.filter_congr fun m _ => by simp only [or_comm]

/-- Whoever is not first of a queue keeps its place before another one that is not. -/
theorem sublist_of_cons {m e f : Member} {rest : List Member} (h : [e, f].Sublist (m :: rest))
    (hne : m ≠ e) : [e, f].Sublist rest := by
  cases h with
  | cons _ h => exact h
  | cons_cons _ h => exact absurd rfl hne

/-- The order of two endpoints that stay changes only by the selection of the first. -/
theorem sublist_step {r : Rotation} (h : r.Sound) {e f : Member} {a : Action}
    (he : e ∈ (r.step a).members) (hf : f ∈ (r.step a).members)
    (hsel : r.selected? a ≠ some e) (hup : [e, f].Sublist r.upcoming) :
    [e, f].Sublist (r.step a).upcoming := by
  cases a with
  | next =>
      cases hr : r.upcoming with
      | nil =>
          rw [hr] at hup
          cases hup
      | cons m rest =>
          obtain ⟨hpick, hnext, -⟩ := next_upcoming h hr
          have hne : m ≠ e := by
            intro heq
            apply hsel
            rw [selected?, hpick, heq]
            rfl
          rw [hr] at hup
          show [e, f].Sublist r.next.2.upcoming
          rw [hnext]
          exact (sublist_of_cons hup hne).trans (List.sublist_append_left _ _)
  | add m =>
      rcases r.step_add m with hadd | hsame
      · obtain ⟨before, after, hr, -, hr', -⟩ := add_upcoming h hadd
        rw [hr] at hup
        rw [hr']
        exact hup.trans ((List.Sublist.refl before).append (List.sublist_cons_self m after))
      · rwa [hsame]
  | remove id =>
      rcases r.step_remove id with hremove | hsame
      · obtain ⟨before, m, after, -, hr, hr'⟩ := remove_upcoming h hremove
        -- Deleting one of the queue is filtering it, and the pair passes the filter.
        have hgone : m ∉ before ++ after := by
          have hnd := h.nodup_upcoming
          rw [hr] at hnd
          exact (List.nodup_cons.mp (List.nodup_middle.mp hnd)).1
        have hother : ∀ u ∈ (r.step (.remove id)).members, u ≠ m := by
          intro u hu heq
          rw [← mem_upcoming, hr', heq] at hu
          exact hgone hu
        have hkeep : (r.step (.remove id)).upcoming = r.upcoming.filter (· ≠ m) := by
          rw [hr, hr', List.filter_append, List.filter_cons_of_neg (by simp), ← List.filter_append]
          refine (List.filter_eq_self.mpr fun u hu => ?_).symm
          exact decide_eq_true fun heq => hgone (heq ▸ hu)
        have hpair : [e, f].filter (· ≠ m) = [e, f] := by
          simp [hother e he, hother f hf]
        rw [hkeep, ← hpair]
        exact hup.filter _
      · rwa [hsame]

/-- Of two endpoints that stay, the one behind the other is not selected. -/
theorem not_selected_of_sublist {r : Rotation} (h : r.Sound) {e f : Member} {a : Action}
    (hup : [e, f].Sublist r.upcoming) : r.selected? a ≠ some f := by
  cases a with
  | add m => simp [selected?]
  | remove id => simp [selected?]
  | next =>
      intro hsel
      cases hr : r.upcoming with
      | nil =>
          rw [hr] at hup
          cases hup
      | cons m rest =>
          rw [selected?, (next_upcoming h hr).1] at hsel
          obtain rfl : m = f := Option.some.inj hsel
          have hnd := h.nodup_upcoming
          rw [hr] at hup hnd
          have hmem : m ∈ rest := by
            cases hup with
            | cons _ hup => exact hup.subset (by simp)
            | cons_cons _ hup => exact hup.subset (by simp)
          exact (List.nodup_cons.mp hnd).1 hmem

/-- Whoever is selected goes behind everyone that stays. -/
theorem sublist_of_selected {r : Rotation} (h : r.Sound) {e f : Member} {a : Action}
    (hne : e ≠ f) (hf : f ∈ r.members) (hsel : r.selected? a = some e) :
    [f, e].Sublist (r.step a).upcoming := by
  cases a with
  | add m => cases hsel
  | remove id => cases hsel
  | next =>
      rw [← mem_upcoming] at hf
      cases hr : r.upcoming with
      | nil =>
          rw [hr] at hf
          cases hf
      | cons m rest =>
          obtain ⟨hpick, hnext, -⟩ := next_upcoming h hr
          rw [selected?, hpick] at hsel
          obtain rfl : m = e := Option.some.inj hsel
          rw [hr] at hf
          show [f, m].Sublist r.next.2.upcoming
          rw [hnext]
          have hf' : f ∈ rest := (List.mem_cons.mp hf).resolve_left hne.symm
          exact (List.singleton_sublist.mpr hf').append (List.Sublist.refl [m])

/-- Two endpoints that stay are selected in turn, whoever comes and goes meanwhile. -/
theorem ofPair_selections {r : Rotation} (h : r.Sound) {e f : Member} (hne : e ≠ f)
    {as : List Action} (he : Stays e r as) (hf : Stays f r as) (hup : [e, f].Sublist r.upcoming) :
    ∃ n, ofPair e f (r.selections as) = inTurn e f n := by
  induction as generalizing r e f with
  | nil => exact ⟨0, rfl⟩
  | cons a as ih =>
      by_cases hsel : r.selected? a = some e
      · have hback := sublist_of_selected h hne hf.here hsel
        obtain ⟨n, hn⟩ := ih (h.step a) hne.symm hf.tail he.tail hback
        refine ⟨n + 1, ?_⟩
        rw [inTurn, ← hn, ofPair_comm f e, selections, hsel]
        simp [ofPair]
      · have hkeep := sublist_step h he.tail.here hf.tail.here hsel hup
        obtain ⟨n, hn⟩ := ih (h.step a) hne he.tail hf.tail hkeep
        refine ⟨n, ?_⟩
        have hother : ofPair e f (r.selected? a).toList = [] := by
          have hnot := not_selected_of_sublist (a := a) h hup
          cases hpick : r.selected? a with
          | none => rfl
          | some m =>
              rw [hpick] at hsel hnot
              unfold ofPair
              rw [Option.toList_some, List.filter_cons_of_neg, List.filter_nil]
              simpa using And.intro (fun heq => hsel (congrArg some heq))
                (fun heq => hnot (congrArg some heq))
        rw [← hn, selections]
        unfold ofPair at hother ⊢
        rw [List.filter_append, hother, List.nil_append]

theorem count_inTurn {e f : Member} (hne : e ≠ f) (n : Nat) :
    (inTurn e f n).count e = (n + 1) / 2 ∧ (inTurn e f n).count f = n / 2 := by
  induction n generalizing e f with
  | zero => exact ⟨rfl, rfl⟩
  | succ n ih =>
      obtain ⟨hf, he⟩ := ih hne.symm
      rw [inTurn, List.count_cons_self, List.count_cons_of_ne hne, hf, he]
      omega

theorem count_ofPair (e f : Member) (ms : List Member) :
    (ofPair e f ms).count e = ms.count e ∧ (ofPair e f ms).count f = ms.count f := by
  unfold ofPair
  exact ⟨List.count_filter (by simp), List.count_filter (by simp)⟩

/-- The selections of two endpoints that stay, counted from one at the front of the other. -/
theorem count_selections {r : Rotation} (h : r.Sound) {e f : Member} (hne : e ≠ f)
    {as : List Action} (he : Stays e r as) (hf : Stays f r as) (hup : [e, f].Sublist r.upcoming) :
    ∃ n, (r.selections as).count e = (n + 1) / 2 ∧ (r.selections as).count f = n / 2 := by
  obtain ⟨n, hn⟩ := ofPair_selections h hne he hf hup
  obtain ⟨hcounte, hcountf⟩ := count_ofPair e f (r.selections as)
  rw [hn] at hcounte hcountf
  obtain ⟨hin, hin'⟩ := count_inTurn hne n
  exact ⟨n, hcounte.symm.trans hin, hcountf.symm.trans hin'⟩

theorem selections_concat (r : Rotation) (as : List Action) (a : Action) :
    r.selections (as ++ [a]) = r.selections as ++ ((r.run as).selected? a).toList := by
  induction as generalizing r with
  | nil => exact List.append_nil _
  | cons b as ih =>
      rw [List.cons_append, selections, ih, selections, List.append_assoc]
      rfl

/-- Between two selections of an endpoint, everyone else that stays has one turn. -/
theorem count_between {r : Rotation} (h : r.Sound) {e f : Member} (hne : e ≠ f)
    {as : List Action} (hfirst : r.next.1 = .ok e) (he : Stays e r.next.2 as)
    (hf : Stays f r.next.2 as) (hnone : e ∉ r.next.2.selections as)
    (hagain : (r.next.2.run as).next.1 = .ok e) : (r.next.2.selections as).count f = 1 := by
  have hfmem : f ∈ r.members := by
    rw [← next_members]
    exact hf.here
  have hup : [f, e].Sublist r.next.2.upcoming := by
    refine sublist_of_selected (a := .next) h hne hfmem ?_
    rw [selected?, hfirst]
    rfl
  -- The same queue, counted without and with the second selection.
  obtain ⟨k, hkf, hke⟩ := count_selections h.next hne.symm hf he hup
  obtain ⟨n, hnf, hn⟩ := count_selections h.next hne.symm hf.concat_next he.concat_next hup
  have hlast : (r.next.2.run as).selected? .next = some e := by
    rw [selected?, hagain]
    rfl
  rw [selections_concat, hlast, Option.toList_some, List.count_append, List.count_singleton] at hnf hn
  rw [List.count_eq_zero.mpr hnone] at hke hn
  rw [beq_false_of_ne hne] at hnf
  rw [beq_self_eq_true] at hn
  simp only [Bool.false_eq_true, if_false, if_true] at hn hnf
  omega

theorem sublist_or_sublist {e f : Member} {ms : List Member} (hne : e ≠ f) (he : e ∈ ms)
    (hf : f ∈ ms) : [e, f].Sublist ms ∨ [f, e].Sublist ms := by
  obtain ⟨before, after, rfl⟩ := List.append_of_mem he
  rcases List.mem_append.mp hf with hf | hf
  · right
    exact (List.singleton_sublist.mpr hf).append (List.singleton_sublist.mpr List.mem_cons_self)
  · left
    have hf' : f ∈ after := (List.mem_cons.mp hf).resolve_left hne.symm
    exact (List.cons_sublist_cons.mpr (List.singleton_sublist.mpr hf')).trans
      (List.sublist_append_right before (e :: after))

/-- Two endpoints that stay have the same number of turns, up to one. -/
theorem count_even {r : Rotation} (h : r.Sound) {e f : Member} {as : List Action}
    (he : Stays e r as) (hf : Stays f r as) :
    (r.selections as).count e ≤ (r.selections as).count f + 1 := by
  by_cases heq : e = f
  · rw [heq]
    exact Nat.le_succ _
  · rcases sublist_or_sublist heq (mem_upcoming.mpr he.here) (mem_upcoming.mpr hf.here) with hup | hup
    · obtain ⟨n, hcounte, hcountf⟩ := count_selections h heq he hf hup
      omega
    · obtain ⟨n, hcountf, hcounte⟩ := count_selections h (Ne.symm heq) hf he hup
      omega

/-! ## Every pool takes turns -/

/-- What the pool does next, and what its endpoints may rely on from here. -/
structure TakesTurns (r : Rotation) : Prop where
  /-- The queue is the list of the endpoints, rotated to start at the cursor. -/
  upcoming_eq : r.upcoming = r.members.rotate r.cursor
  /-- Ids are distinct. -/
  distinct : (r.members.map Member.id).Nodup
  next_nil : r.upcoming = [] → r.next = (.error .noEndpoint, r)
  /-- The head of the queue is selected and goes to the back. -/
  next_cons : ∀ m rest, r.upcoming = m :: rest →
    r.next.1 = .ok m ∧ r.next.2.upcoming = rest ++ [m] ∧ r.next.2.members = r.members
  /-- Who is in the pool can leave it, and nobody else. -/
  leaves_iff : ∀ id, (∃ r', r.remove id = .ok r') ↔ ∃ m ∈ r.members, m.id = id
  /-- Whoever leaves is deleted from the queue, which is otherwise as before. -/
  leaves : ∀ id r', r.remove id = .ok r' → ∃ before m after, m.id = id ∧
    r.upcoming = before ++ m :: after ∧ r'.upcoming = before ++ after
  /-- Whoever has a new id can come, and nobody else. -/
  comes_iff : ∀ m, (∃ r', r.add m = .ok r') ↔ ∀ u ∈ r.members, u.id ≠ m.id
  /-- Whoever comes is behind the last of the list. -/
  comes : ∀ m r', r.add m = .ok r' → ∃ before after, r.upcoming = before ++ after ∧
    before.getLast? = r.members.getLast? ∧ r'.upcoming = before ++ m :: after ∧
    r'.members = r.members ++ [m]
  /-- Between two selections of an endpoint, everyone else that stays has one turn. -/
  between : ∀ e f as, e ≠ f → r.next.1 = .ok e → Stays e r.next.2 as → Stays f r.next.2 as →
    e ∉ r.next.2.selections as → (r.next.2.run as).next.1 = .ok e →
    (r.next.2.selections as).count f = 1
  /-- Endpoints that stay have the same number of turns, up to one. -/
  even : ∀ e f as, Stays e r as → Stays f r as →
    (r.selections as).count e ≤ (r.selections as).count f + 1

theorem remove_isOk {r : Rotation} {m : Member} (hm : m ∈ r.members) :
    ∃ r', r.remove m.id = .ok r' := by
  unfold remove
  cases hindex : r.members.findIdx? (·.id = m.id) with
  | some index => exact ⟨_, rfl⟩
  | none =>
      have := List.findIdx?_eq_none_iff.mp hindex m hm
      simp at this

theorem add_isOk {r : Rotation} {m : Member} (hfree : ∀ u ∈ r.members, u.id ≠ m.id) :
    ∃ r', r.add m = .ok r' := by
  refine ⟨{ r with members := r.members ++ [m] }, ?_⟩
  unfold add addMember
  rw [if_neg (by simpa using hfree)]
  rfl

theorem Sound.takesTurns {r : Rotation} (h : r.Sound) : r.TakesTurns where
  upcoming_eq := (List.rotate_eq_drop_append_take h.cursor_le).symm
  distinct := h.distinct
  next_nil := by
    intro hnil
    exact next_of_empty (hnil ▸ r.upcoming_perm).nil_eq.symm
  next_cons := fun _ _ hup => next_upcoming h hup
  leaves_iff := by
    intro id
    constructor
    · rintro ⟨r', hremove⟩
      obtain ⟨before, m, after, hmembers, hid, -⟩ := exists_split_of_remove hremove
      exact ⟨m, by rw [hmembers]; simp, hid⟩
    · rintro ⟨m, hm, rfl⟩
      exact remove_isOk hm
  leaves := fun _ _ hremove => remove_upcoming h hremove
  comes_iff := by
    intro m
    constructor
    · rintro ⟨r', hadd⟩
      exact (add_eq hadd).1
    · exact add_isOk
  comes := fun _ _ hadd => add_upcoming h hadd
  between := fun _ _ _ hne hfirst he hf hnone hagain =>
    count_between h hne hfirst he hf hnone hagain
  even := fun _ _ _ he hf => count_even h he hf

/-- Whatever has been asked of a pool, its endpoints take turns. -/
theorem takesTurns_run_empty (as : List Action) : (empty.run as).TakesTurns := by
  exact (sound_empty.run as).takesTurns

end Gateway.Rotation
