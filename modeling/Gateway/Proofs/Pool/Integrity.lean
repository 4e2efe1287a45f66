import Gateway.Proofs.History
import Gateway.Proofs.Pool.Rotation

/-!
# What a rotation holds

Whatever has been asked of a rotation, it holds the endpoints that were added and have not
been removed since, in the order in which they were added. What it refuses it refuses for
one reason only, and a refusal leaves no trace.
-/

namespace Gateway.Rotation

/-- The id that an action adds or removes. -/
def Action.id? : Action → Option String
  | .next => none
  | .add m => some m.id
  | .remove id => some id

/-- Whom an action leaves in the pool under its id. -/
def Action.leaves? : Action → Option Member
  | .next => none
  | .add m => some m
  | .remove _ => none

/-- What the pool says to an action: the endpoint selected, if one is asked for, or why not. -/
def answer (r : Rotation) : Action → Except Error (Option Member)
  | .next => r.next.1.map some
  | .add m => (r.add m).map fun _ => none
  | .remove id => (r.remove id).map fun _ => none

/-- The answers in the course of some actions. -/
def answers (r : Rotation) : List Action → List (Except Error (Option Member))
  | [] => []
  | a :: as => r.answer a :: (r.step a).answers as

/-- Behind the actions `before`, an action adds or removes the id without being refused. -/
def Settles (id : String) (before : List Action) (a : Action) : Prop :=
  a.id? = some id ∧ ∃ x, (empty.run before).answer a = .ok x

/-- Action `i` is the addition of an endpoint, and the last one that has settled its id. -/
def AddedAt (as : List Action) (m : Member) (i : Nat) : Prop :=
  Latest (Settles m.id) as i (.add m)

/-- How a pool stands behind its history. -/
structure Intact (r : Rotation) (as : List Action) : Prop where
  distinct : (r.members.map Member.id).Nodup
  cursor_valid : r.cursor = 0 ∨ r.cursor < r.members.length
  /-- Members are those that were added and have not been removed since. -/
  mem_iff : ∀ m, m ∈ r.members ↔ ∃ i, AddedAt as m i
  /-- They are listed in the order of their additions. -/
  ordered : r.members.Pairwise fun u v => ∀ i j, AddedAt as u i → AddedAt as v j → i < j
  /-- Only an empty pool selects nobody. -/
  next_fails_iff : ∀ e, r.next.1 = .error e ↔ e = .noEndpoint ∧ r.members = []
  next_ok : ∀ m, r.next.1 = .ok m → m ∈ r.members
  /-- Only an id that is taken is refused. -/
  add_fails_iff : ∀ m e, r.add m = .error e ↔
    e = .endpointExists m.id ∧ ∃ u ∈ r.members, u.id = m.id
  /-- Only an id that nobody has cannot be removed. -/
  remove_fails_iff : ∀ id e, r.remove id = .error e ↔
    e = .endpointUnknown id ∧ ∀ u ∈ r.members, u.id ≠ id
  /-- What is refused changes neither the list nor the cursor, and no later answer. -/
  refused : ∀ a e, r.answer a = .error e →
    r.step a = r ∧ ∀ as, r.answers (a :: as) = .error e :: r.answers as

/-! ## Answers -/

variable {r : Rotation} {id : String} {m : Member} {e : Error}

theorem Sound.next_ok (h : r.Sound) (hnext : r.next.1 = .ok m) : m ∈ r.members := by
  by_cases hnil : r.members = []
  · rw [next_of_empty hnil] at hnext
    cases hnext
  · obtain ⟨before, m', after, hmembers, hcursor⟩ := h.split hnil
    rw [next_eq hmembers hcursor, Except.ok.injEq] at hnext
    rw [hmembers, hnext]
    exact List.mem_append_right _ List.mem_cons_self

theorem Sound.next_fails_iff (h : r.Sound) :
    r.next.1 = .error e ↔ e = .noEndpoint ∧ r.members = [] := by
  by_cases hnil : r.members = []
  · rw [next_of_empty hnil, Except.error.injEq]
    exact ⟨fun heq => ⟨heq.symm, hnil⟩, fun ⟨heq, _⟩ => heq.symm⟩
  · obtain ⟨before, m', after, hmembers, hcursor⟩ := h.split hnil
    rw [next_eq hmembers hcursor]
    constructor
    · intro hnext
      cases hnext
    · rintro ⟨-, hnil'⟩
      exact absurd hnil' hnil

theorem add_fails_iff :
    r.add m = .error e ↔ e = .endpointExists m.id ∧ ∃ u ∈ r.members, u.id = m.id := by
  unfold add addMember
  by_cases htaken : r.members.any (·.id = m.id)
  · rw [if_pos htaken]
    have hu : ∃ u ∈ r.members, u.id = m.id := by simpa using htaken
    constructor
    · intro hadd
      exact ⟨(Except.error.inj hadd).symm, hu⟩
    · rintro ⟨rfl, -⟩
      rfl
  · rw [if_neg htaken]
    constructor
    · intro hadd
      cases hadd
    · rintro ⟨-, u, hu, hid⟩
      exact absurd (List.any_eq_true.mpr ⟨u, hu, decide_eq_true hid⟩) htaken

theorem remove_fails_iff :
    r.remove id = .error e ↔ e = .endpointUnknown id ∧ ∀ u ∈ r.members, u.id ≠ id := by
  have hnone : r.members.findIdx? (·.id = id) = none ↔ ∀ u ∈ r.members, decide (u.id = id) = false :=
    List.findIdx?_eq_none_iff
  unfold remove
  cases hindex : r.members.findIdx? (·.id = id) with
  | none =>
      rw [hindex] at hnone
      have habsent : ∀ u ∈ r.members, u.id ≠ id := by simpa using hnone
      constructor
      · intro hremove
        exact ⟨(Except.error.inj hremove).symm, habsent⟩
      · rintro ⟨rfl, -⟩
        rfl
  | some index =>
      rw [hindex] at hnone
      constructor
      · intro hremove
        cases hremove
      · rintro ⟨-, habsent⟩
        exact absurd (hnone.mpr (by simpa using habsent)) (Option.some_ne_none index)

theorem step_of_add {r' : Rotation} (hadd : r.add m = .ok r') : r.step (.add m) = r' := by
  simp only [step, hadd]

theorem step_of_remove {r' : Rotation} (hremove : r.remove id = .ok r') :
    r.step (.remove id) = r' := by
  simp only [step, hremove]

/-- What is refused changes nothing. -/
theorem Sound.step_of_refused (h : r.Sound) {a : Action} (hrefused : r.answer a = .error e) :
    r.step a = r := by
  cases a with
  | next =>
      cases hnext : r.next.1 with
      | ok m =>
          rw [answer, hnext] at hrefused
          cases hrefused
      | error e' =>
          show r.next.2 = r
          rw [next_of_empty (h.next_fails_iff.mp hnext).2]
  | add m =>
      cases hadd : r.add m with
      | ok r' =>
          rw [answer, hadd] at hrefused
          cases hrefused
      | error e' => simp only [Rotation.step, hadd]
  | remove id =>
      cases hremove : r.remove id with
      | ok r' =>
          rw [answer, hremove] at hrefused
          cases hrefused
      | error e' => simp only [Rotation.step, hremove]

/-! ## Who is there under an id -/

/-- The member with an id. -/
def find? (r : Rotation) (id : String) : Option Member :=
  r.members.find? (·.id = id)

theorem Sound.find?_iff (h : r.Sound) : r.find? id = some m ↔ m ∈ r.members ∧ m.id = id :=
  find?_key_iff h.distinct id m

theorem find?_next (r : Rotation) (id : String) : r.next.2.find? id = r.find? id := by
  unfold find?
  rw [next_members]

theorem find?_add {r' : Rotation} (hadd : r.add m = .ok r') (id : String) :
    r'.find? id = if m.id = id then some m else r.find? id := by
  obtain ⟨hfree, rfl⟩ := add_eq hadd
  unfold find?
  rw [List.find?_append]
  by_cases hid : m.id = id
  · subst hid
    have hnone : r.members.find? (·.id = m.id) = none :=
      List.find?_eq_none.mpr fun u hu => by simpa using hfree u hu
    rw [hnone, if_pos rfl]
    simp
  · rw [if_neg hid]
    simp [hid]

theorem Sound.find?_remove (h : r.Sound) {gone : String} {r' : Rotation}
    (hremove : r.remove gone = .ok r') (id : String) :
    r'.find? id = if gone = id then none else r.find? id := by
  obtain ⟨before, m, after, hmembers, rfl, hfirst⟩ := exists_split_of_remove hremove
  rw [remove_eq hmembers rfl hfirst, Except.ok.injEq] at hremove
  subst hremove
  unfold find?
  by_cases hid : m.id = id
  · subst hid
    rw [if_pos rfl, List.find?_eq_none]
    -- The ids are distinct, so that nobody else had this one.
    have hdistinct := h.distinct
    rw [hmembers, List.map_append, List.map_cons] at hdistinct
    have hgone := (List.nodup_cons.mp (List.nodup_middle.mp hdistinct)).1
    rw [← List.map_append] at hgone
    intro u hu
    rw [decide_eq_true_eq]
    intro heq
    exact hgone (heq ▸ List.mem_map_of_mem hu)
  · rw [if_neg hid, hmembers, List.find?_append, List.find?_append, List.find?_cons]
    simp [hid]

/-- An action that is not refused leaves whom it is to leave under its id. -/
theorem Sound.find?_of_settled (h : r.Sound) {a : Action} (hid : a.id? = some id)
    {x : Option Member} (hok : r.answer a = .ok x) : (r.step a).find? id = a.leaves? := by
  cases a with
  | next => cases hid
  | add m =>
      obtain rfl : m.id = id := Option.some.inj hid
      cases hadd : r.add m with
      | ok r' => rw [step_of_add hadd, find?_add hadd, if_pos rfl, Action.leaves?]
      | error e =>
          rw [answer, hadd] at hok
          cases hok
  | remove gone =>
      obtain rfl : gone = id := Option.some.inj hid
      cases hremove : r.remove gone with
      | ok r' => rw [step_of_remove hremove, h.find?_remove hremove, if_pos rfl, Action.leaves?]
      | error e =>
          rw [answer, hremove] at hok
          cases hok

/-- Any other action leaves alone whoever is there under an id. -/
theorem Sound.find?_of_not_settled (h : r.Sound) {a : Action}
    (hnot : ¬ (a.id? = some id ∧ ∃ x, r.answer a = .ok x)) : (r.step a).find? id = r.find? id := by
  cases hanswer : r.answer a with
  | error e => rw [h.step_of_refused hanswer]
  | ok x =>
      have hid : a.id? ≠ some id := fun hid => hnot ⟨hid, x, hanswer⟩
      cases a with
      | next => exact find?_next r id
      | add m =>
          rcases r.step_add m with hadd | hsame
          · rw [find?_add hadd, if_neg fun heq => hid (congrArg some heq)]
          · rw [hsame]
      | remove gone =>
          rcases r.step_remove gone with hremove | hsame
          · rw [h.find?_remove hremove, if_neg fun heq => hid (congrArg some heq)]
          · rw [hsame]

/-! ## Histories of a pool -/

theorem mem_run_iff (as : List Action) (m : Member) :
    m ∈ (empty.run as).members ↔ ∃ i, AddedAt as m i := by
  have hmem : (empty.run as).find? m.id = some m ↔ m ∈ (empty.run as).members := by
    rw [(sound_empty.run as).find?_iff, and_iff_left rfl]
  have hfind : (empty.run as).find? m.id = some m ↔
      ∃ i a, Latest (Settles m.id) as i a ∧ a.leaves? = some m := by
    refine Latest.value_eq_some_iff (fun as => (empty.run as).find? m.id) Action.leaves? rfl ?_ ?_ as m
    · rintro as a ⟨hid, x, hok⟩
      simp only [run_concat]
      exact (sound_empty.run as).find?_of_settled hid hok
    · intro as a hnot
      simp only [run_concat]
      exact (sound_empty.run as).find?_of_not_settled hnot
  rw [← hmem, hfind]
  constructor
  · rintro ⟨i, a, hlatest, hleaves⟩
    cases a with
    | next => cases hleaves
    | remove gone => cases hleaves
    | add u =>
        obtain rfl : u = m := Option.some.inj hleaves
        exact ⟨i, hlatest⟩
  · rintro ⟨i, hlatest⟩
    exact ⟨i, .add m, hlatest, rfl⟩

/-- The members of a pool come and go as its history tells. -/
theorem members_roll : Roll (fun as => (empty.run as).members) AddedAt where
  nil := rfl
  lt_length := fun h => h.lt_length
  stays := by
    intro as a m i hm _ hadded
    rcases Latest.concat_iff.mp hadded with ⟨-, rfl, -, x, hok⟩ | ⟨-, hlatest⟩
    · -- A member cannot be added again.
      have hadd : (empty.run as).add m = .error (.endpointExists m.id) :=
        add_fails_iff.mpr ⟨rfl, m, hm, rfl⟩
      rw [answer, hadd] at hok
      cases hok
    · exact hlatest
  joins := by
    intro as a m i hm hadded
    rcases Latest.concat_iff.mp hadded with ⟨rfl, -⟩ | ⟨-, hlatest⟩
    · rfl
    · exact absurd ((mem_run_iff as m).mpr ⟨i, hlatest⟩) hm
  changes := by
    intro as a
    simp only [run_concat]
    cases a with
    | next =>
        left
        show (empty.run as).next.2.members.Sublist _
        rw [next_members]
    | add m =>
        rcases (empty.run as).step_add m with hadd | hsame
        · obtain ⟨hfree, heq⟩ := add_eq hadd
          exact Or.inr ⟨m, fun hm => hfree m hm rfl, by rw [heq]⟩
        · exact Or.inl (by rw [hsame])
    | remove id =>
        left
        rcases (empty.run as).step_remove id with hremove | hsame
        · obtain ⟨before, m, after, hmembers, hid, hfirst⟩ := exists_split_of_remove hremove
          rw [remove_eq hmembers hid hfirst, Except.ok.injEq] at hremove
          rw [← hremove, hmembers]
          exact (List.Sublist.refl before).append (List.sublist_cons_self m after)
        · rw [hsame]

/-- Whatever has been asked of a pool, it is intact. -/
theorem intact_run_empty (as : List Action) : (empty.run as).Intact as := by
  have hsound := sound_empty.run as
  exact {
    distinct := hsound.distinct
    cursor_valid := hsound.cursor_valid
    mem_iff := mem_run_iff as
    ordered := members_roll.pairwise as
    next_fails_iff := fun _ => hsound.next_fails_iff
    next_ok := fun _ => hsound.next_ok
    add_fails_iff := fun _ _ => add_fails_iff
    remove_fails_iff := fun _ _ => remove_fails_iff
    refused := by
      intro a e hrefused
      have hstep := hsound.step_of_refused hrefused
      refine ⟨hstep, fun bs => ?_⟩
      rw [answers, hrefused, hstep] }

/-! ## Pools that are set up with endpoints -/

/-- The additions by which a pool is set up. -/
def seating (serial : Nat) (es : List Endpoint) : List Action :=
  (es.zipIdx serial).map fun (e, n) => .add ⟨n, e⟩

theorem run_append (r : Rotation) (as bs : List Action) :
    r.run (as ++ bs) = (r.run as).run bs := by
  unfold run
  rw [List.foldl_append]

theorem run_of_ofEndpoints {serial : Nat} {es : List Endpoint}
    (h : ofEndpoints serial es = .ok r) : r = empty.run (seating serial es) := by
  unfold ofEndpoints seating at *
  generalize es.zipIdx serial = seats at h ⊢
  generalize empty = start at h ⊢
  induction seats generalizing start with
  | nil => exact (Except.ok.inj h).symm
  | cons seat seats ih =>
      obtain ⟨e, n⟩ := seat
      rw [List.foldlM_cons] at h
      simp only [] at h
      cases hadd : start.add ⟨n, e⟩ with
      | error e =>
          rw [hadd] at h
          cases h
      | ok next =>
          rw [hadd] at h
          rw [ih next h]
          show _ = (start.step (.add ⟨n, e⟩)).run _
          rw [step_of_add hadd]

/-- A pool that was set up with some endpoints, or none, is intact whatever has been asked of
it since. -/
theorem intact_run {serial : Nat} {es : List Endpoint} (h : ofEndpoints serial es = .ok r)
    (as : List Action) : (r.run as).Intact (seating serial es ++ as) := by
  rw [run_of_ofEndpoints h, ← run_append]
  exact intact_run_empty _

def firstEndpoints : List Endpoint :=
  [⟨.http, .domain "a", 80, "http://a/"⟩, ⟨.http, .domain "b", 80, "http://b/"⟩]

/-- Both endpoints have a turn, one of them leaves and comes back. -/
def departure : List Action :=
  [.next, .next, .remove "http://a:80", .next, .add ⟨2, ⟨.http, .domain "a", 80, "http://a/"⟩⟩]

/-- Whoever comes back is behind those that stayed. -/
theorem intact_run_departure :
    ofEndpoints 0 firstEndpoints = .ok (empty.run (seating 0 firstEndpoints)) ∧
    ((empty.run (seating 0 firstEndpoints)).run departure).Intact
      (seating 0 firstEndpoints ++ departure) ∧
    ((empty.run (seating 0 firstEndpoints)).run departure).members.map Member.serial = [1, 2] := by
  have hset : ofEndpoints 0 firstEndpoints = .ok (empty.run (seating 0 firstEndpoints)) := by
    decide +kernel
  exact ⟨hset, intact_run hset departure, by decide +kernel⟩

end Gateway.Rotation
