import Gateway.Chain
import Gateway.Proofs.History

/-!
# What a chain holds

A chain is told by the list of what has been done to it. Under each name stands the handler
that was given last, the names stand in the order in which they came, and neither a handler
that is exchanged nor an action that is refused moves any of them. A list that was taken from
the chain stays as it was.
-/

namespace Gateway.Chain

variable {η : Type}

/-- What is done to a chain. -/
inductive Action (η : Type) where
  | append (name : String) (h : η)
  | update (name : String) (h : η)
  | remove (name : String)
  | snapshot

namespace Action

/-- The name that an action is about. -/
def name? : Action η → Option String
  | append name _ => some name
  | update name _ => some name
  | remove name => some name
  | snapshot => none

/-- The handler that an action gives. -/
def handler? : Action η → Option η
  | append _ h => some h
  | update _ h => some h
  | remove _ => none
  | snapshot => none

/-- An action gives a handler to a name. -/
def Puts (name : String) : Action η → Prop
  | append n _ => n = name
  | update n _ => n = name
  | remove _ => False
  | snapshot => False

def isSnapshot : Action η → Bool
  | snapshot => true
  | _ => false

end Action

/-- The chain that an action makes, unless it is refused. -/
def edit (c : Chain η) : Action η → Except Error (Chain η)
  | .append name h => c.append name h
  | .update name h => .ok (c.update name h)
  | .remove name => c.remove name
  | .snapshot => .ok c

/-- The chain after an action; one that is refused leaves it as it was. -/
def step (c : Chain η) (a : Action η) : Chain η :=
  match c.edit a with
  | .ok c => c
  | .error _ => c

/-- A chain and the lists that were taken from it, the oldest one first. -/
structure Session (η : Type) where
  chain : Chain η := .empty
  taken : List (List (String × η)) := []

namespace Session

def step (s : Session η) (a : Action η) : Session η where
  chain := s.chain.step a
  taken := if a.isSnapshot then s.taken ++ [s.chain.entries] else s.taken

/-- A new chain, and what has been done to it since. -/
def run (as : List (Action η)) : Session η := as.foldl step {}

end Session

/-- Behind the actions `before`, an action is about a name and is not refused. -/
def Settles (name : String) (before : List (Action η)) (a : Action η) : Prop :=
  a.name? = some name ∧ ∃ c, (Session.run before).chain.edit a = .ok c

/-- Action `i` is the first that gave a handler to a name since the name was removed last. -/
structure InsertedAt (as : List (Action η)) (name : String) (i : Nat) : Prop where
  puts : ∃ a, as[i]? = some a ∧ a.Puts name
  stays : ∀ j, i < j → as[j]? ≠ some (.remove name)
  first : ∀ j a, j < i → as[j]? = some a → a.Puts name →
    ∃ k, j < k ∧ k < i ∧ as[k]? = some (.remove name)

/-- How a chain, and the lists that were taken from it, stand behind their history. -/
structure Session.Faithful (s : Session η) (as : List (Action η)) : Prop where
  distinct : s.chain.names.Nodup
  /-- Under a name stands the handler of the last action about it that was not refused. -/
  get?_iff : ∀ name h, s.chain.get? name = some h ↔
    ∃ i a, Latest (Settles name) as i a ∧ a.handler? = some h
  /-- The names are those that were given a handler and have not been removed since. -/
  mem_names_iff : ∀ name, name ∈ s.chain.names ↔ ∃ i, InsertedAt as name i
  /-- They stand in the order in which they came. -/
  ordered : s.chain.names.Pairwise fun x y => ∀ i j, InsertedAt as x i → InsertedAt as y j → i < j
  /-- Another handler under a name does not move it. -/
  update_names : ∀ name h, name ∈ s.chain.names → (s.chain.update name h).names = s.chain.names
  append_fails_iff : ∀ name h e, s.chain.append name h = .error e ↔
    e = .nameTaken name ∧ name ∈ s.chain.names
  remove_fails_iff : ∀ name e, s.chain.remove name = .error e ↔
    e = .nameUnknown name ∧ name ∉ s.chain.names
  refused : ∀ a e, s.chain.edit a = .error e → s.step a = s
  /-- All ways to look at a chain show the same list. -/
  get?_iff_mem : ∀ name h, s.chain.get? name = some h ↔ (name, h) ∈ s.chain.entries
  names_eq : s.chain.names = s.chain.entries.map Prod.fst
  size_eq : s.chain.size = s.chain.entries.length
  /-- A list that was taken is the one of its own moment, whatever has been done since. -/
  snapshots : ∀ before rest, as = before ++ .snapshot :: rest →
    s.taken[before.countP Action.isSnapshot]? = some (Session.run before).chain.entries

/-! ## One action -/

variable {c c' : Chain η} {name : String} {h : η} {e : Error}

theorem contains_iff : c.contains name = true ↔ name ∈ c.names := by
  unfold contains names
  rw [List.any_eq_true, List.mem_map]
  simp only [decide_eq_true_eq]

theorem append_eq (happend : c.append name h = .ok c') :
    name ∉ c.names ∧ c' = ⟨c.entries ++ [(name, h)]⟩ := by
  unfold append at happend
  by_cases htaken : c.contains name = true
  · rw [if_pos htaken] at happend
    cases happend
  · rw [if_neg htaken] at happend
    rw [contains_iff] at htaken
    exact ⟨htaken, (Except.ok.inj happend).symm⟩

theorem remove_eq (hremove : c.remove name = .ok c') :
    name ∈ c.names ∧ c' = ⟨c.entries.filter (·.1 ≠ name)⟩ := by
  unfold remove at hremove
  by_cases hthere : c.contains name = true
  · rw [if_pos hthere] at hremove
    rw [contains_iff] at hthere
    exact ⟨hthere, (Except.ok.inj hremove).symm⟩
  · rw [if_neg hthere] at hremove
    cases hremove

theorem append_fails_iff : c.append name h = .error e ↔ e = .nameTaken name ∧ name ∈ c.names := by
  unfold append
  by_cases htaken : c.contains name = true
  · rw [if_pos htaken, Except.error.injEq, eq_comm, and_iff_left (contains_iff.mp htaken)]
  · rw [if_neg htaken]
    constructor
    · intro happend
      cases happend
    · rintro ⟨-, hmem⟩
      exact absurd (contains_iff.mpr hmem) htaken

theorem remove_fails_iff : c.remove name = .error e ↔ e = .nameUnknown name ∧ name ∉ c.names := by
  unfold remove
  by_cases hthere : c.contains name = true
  · rw [if_pos hthere]
    constructor
    · intro hremove
      cases hremove
    · rintro ⟨-, hnot⟩
      exact absurd (contains_iff.mp hthere) hnot
  · rw [if_neg hthere, Except.error.injEq, eq_comm,
      and_iff_left fun hmem => hthere (contains_iff.mpr hmem)]

theorem step_of_edit {a : Action η} (hedit : c.edit a = .ok c') : c.step a = c' := by
  simp only [step, hedit]

theorem step_of_refused {a : Action η} (hedit : c.edit a = .error e) : c.step a = c := by
  simp only [step, hedit]

/-! ## Names -/

theorem Action.Puts.ne_remove {a : Action η} (hputs : a.Puts name) (other : String) :
    a ≠ .remove other := by
  rintro rfl
  exact hputs

theorem Action.Puts.iff_eq {a : Action η} (hputs : a.Puts name) (other : String) :
    a.Puts other ↔ name = other := by
  cases a with
  | append n h => rw [show n = name from hputs, Puts]
  | update n h => rw [show n = name from hputs, Puts]
  | remove n => cases hputs
  | snapshot => cases hputs

theorem Action.puts_or (a : Action η) :
    (∃ name, a.Puts name) ∨ (∃ name, a = .remove name) ∨ a = .snapshot := by
  cases a with
  | append name h => exact Or.inl ⟨name, rfl⟩
  | update name h => exact Or.inl ⟨name, rfl⟩
  | remove name => exact Or.inr (Or.inl ⟨name, rfl⟩)
  | snapshot => exact Or.inr (Or.inr rfl)

theorem names_update (c : Chain η) (name : String) (h : η) :
    (c.update name h).names = if name ∈ c.names then c.names else c.names ++ [name] := by
  unfold update
  by_cases hthere : c.contains name = true
  · rw [if_pos hthere, if_pos (contains_iff.mp hthere)]
    unfold names
    rw [List.map_map]
    refine List.map_congr_left fun e _ => ?_
    by_cases he : e.1 = name
    · simp [he]
    · simp [he]
  · rw [if_neg hthere, if_neg fun hmem => hthere (contains_iff.mpr hmem)]
    unfold names
    rw [List.map_append, List.map_singleton]

/-- A name that is given a handler is there already, or comes behind the others. -/
theorem names_step_of_puts {a : Action η} (hputs : a.Puts name) (c : Chain η) :
    (c.step a).names = if name ∈ c.names then c.names else c.names ++ [name] := by
  cases a with
  | append n h =>
      obtain rfl : n = name := hputs
      cases happend : c.append n h with
      | error e =>
          rw [step_of_refused (a := .append n h) happend, if_pos (append_fails_iff.mp happend).2]
      | ok c' =>
          obtain ⟨hfree, rfl⟩ := append_eq happend
          rw [step_of_edit (a := .append n h) happend, if_neg hfree]
          unfold names
          rw [List.map_append, List.map_singleton]
  | update n h =>
      obtain rfl : n = name := hputs
      exact names_update c n h
  | remove n => cases hputs
  | snapshot => cases hputs

theorem names_step_remove (c : Chain η) (name : String) :
    (c.step (.remove name)).names = c.names.filter (· ≠ name) := by
  cases hremove : c.remove name with
  | error e =>
      have habsent := (remove_fails_iff.mp hremove).2
      rw [step_of_refused (a := .remove name) hremove, List.filter_eq_self.mpr]
      intro n hn
      exact decide_eq_true fun heq => habsent (heq ▸ hn)
  | ok c' =>
      obtain ⟨-, rfl⟩ := remove_eq hremove
      rw [step_of_edit (a := .remove name) hremove]
      unfold names
      rw [List.filter_map]
      rfl

theorem names_step_snapshot (c : Chain η) : (c.step .snapshot).names = c.names := rfl

/-- Names leave, or a new one comes behind the others. -/
theorem names_step (c : Chain η) (a : Action η) :
    (c.step a).names.Sublist c.names ∨
      ∃ name, name ∉ c.names ∧ (c.step a).names = c.names ++ [name] := by
  rcases a.puts_or with ⟨name, hputs⟩ | ⟨name, rfl⟩ | rfl
  · rw [names_step_of_puts hputs]
    by_cases hmem : name ∈ c.names
    · rw [if_pos hmem]
      exact Or.inl (List.Sublist.refl _)
    · rw [if_neg hmem]
      exact Or.inr ⟨name, hmem, rfl⟩
  · rw [names_step_remove]
    exact Or.inl List.filter_sublist
  · exact Or.inl (List.Sublist.refl _)

/-- A name is there if an action gives it a handler, or leaves it there. -/
theorem mem_names_step_iff (c : Chain η) (a : Action η) (name : String) :
    name ∈ (c.step a).names ↔ a.Puts name ∨ (name ∈ c.names ∧ a ≠ .remove name) := by
  rcases a.puts_or with ⟨n, hputs⟩ | ⟨n, rfl⟩ | rfl
  · rw [names_step_of_puts hputs, hputs.iff_eq, and_iff_left (hputs.ne_remove name)]
    by_cases hn : n ∈ c.names
    · rw [if_pos hn]
      constructor
      · exact Or.inr
      · rintro (rfl | hmem)
        · exact hn
        · exact hmem
    · rw [if_neg hn, List.mem_append, List.mem_singleton, or_comm, eq_comm]
  · rw [names_step_remove, List.mem_filter, decide_eq_true_eq]
    constructor
    · rintro ⟨hmem, hne⟩
      exact Or.inr ⟨hmem, fun heq => hne (Action.remove.inj heq).symm⟩
    · rintro (hputs | ⟨hmem, hne⟩)
      · cases hputs
      · exact ⟨hmem, fun heq => hne (by rw [heq])⟩
  · rw [names_step_snapshot]
    constructor
    · intro hmem
      exact Or.inr ⟨hmem, fun heq => by cases heq⟩
    · rintro (hputs | ⟨hmem, -⟩)
      · cases hputs
      · exact hmem

/-! ## Handlers -/

theorem get?_append (happend : c.append name h = .ok c') (other : String) :
    c'.get? other = if name = other then some h else c.get? other := by
  obtain ⟨hfree, rfl⟩ := append_eq happend
  unfold get?
  rw [List.find?_append]
  by_cases hother : name = other
  · subst hother
    have hnone : c.entries.find? (·.1 = name) = none := by
      refine List.find?_eq_none.mpr fun e he heq => hfree ?_
      rw [decide_eq_true_eq] at heq
      exact List.mem_map.mpr ⟨e, he, heq⟩
    rw [hnone, if_pos rfl]
    simp
  · rw [if_neg hother]
    simp [hother]

theorem get?_update (c : Chain η) (name : String) (h : η) (other : String) :
    (c.update name h).get? other = if name = other then some h else c.get? other := by
  by_cases hthere : c.contains name = true
  · unfold update get?
    rw [if_pos hthere, List.find?_map]
    -- The names are the same, so that the same entry is found.
    have hsame : ((fun e : String × η => decide (e.1 = other)) ∘
        fun e => if e.1 = name then (name, h) else e) = fun e => decide (e.1 = other) := by
      funext e
      by_cases he : e.1 = name
      · simp [he]
      · simp [he]
    rw [hsame]
    cases hfind : c.entries.find? (·.1 = other) with
    | none =>
        rw [if_neg]
        · rfl
        · rintro rfl
          obtain ⟨e, he, hname⟩ := List.mem_map.mp (contains_iff.mp hthere)
          exact List.find?_eq_none.mp hfind e he (decide_eq_true hname)
    | some e =>
        have hname : e.1 = other := by simpa using List.find?_some hfind
        by_cases hother : name = other
        · simp [hname, hother]
        · simp [hname, hother, Ne.symm hother]
  · have happend : c.append name h = .ok (c.update name h) := by
      unfold append update
      rw [if_neg hthere, if_neg hthere]
    exact get?_append happend other

theorem get?_remove (hremove : c.remove name = .ok c') (other : String) :
    c'.get? other = if name = other then none else c.get? other := by
  obtain ⟨-, rfl⟩ := remove_eq hremove
  unfold get?
  rw [List.find?_filter]
  by_cases hother : name = other
  · subst hother
    rw [if_pos rfl, Option.map_eq_none_iff, List.find?_eq_none]
    intro e _
    simp
  · rw [if_neg hother]
    congr 2
    funext e
    by_cases he : e.1 = other
    · simp [he, Ne.symm hother]
    · simp [he]

/-- An action that is not refused gives its handler to the name that it is about. -/
theorem get?_of_settled {a : Action η} (hname : a.name? = some name) (hedit : c.edit a = .ok c') :
    (c.step a).get? name = a.handler? := by
  rw [step_of_edit hedit]
  cases a with
  | append n h =>
      obtain rfl : n = name := Option.some.inj hname
      rw [get?_append hedit, if_pos rfl, Action.handler?]
  | update n h =>
      obtain rfl : n = name := Option.some.inj hname
      obtain rfl : c.update n h = c' := Except.ok.inj hedit
      rw [get?_update, if_pos rfl, Action.handler?]
  | remove n =>
      obtain rfl : n = name := Option.some.inj hname
      rw [get?_remove hedit, if_pos rfl, Action.handler?]
  | snapshot => cases hname

/-- Any other action leaves the handler under a name alone. -/
theorem get?_of_not_settled {a : Action η}
    (hnot : ¬ (a.name? = some name ∧ ∃ c', c.edit a = .ok c')) :
    (c.step a).get? name = c.get? name := by
  cases hedit : c.edit a with
  | error e => rw [step_of_refused hedit]
  | ok c' =>
      have hname : a.name? ≠ some name := fun hname => hnot ⟨hname, c', hedit⟩
      rw [step_of_edit hedit]
      cases a with
      | append n h => rw [get?_append hedit, if_neg fun heq => hname (congrArg some heq)]
      | update n h =>
          obtain rfl : c.update n h = c' := Except.ok.inj hedit
          rw [get?_update, if_neg fun heq => hname (congrArg some heq)]
      | remove n => rw [get?_remove hedit, if_neg fun heq => hname (congrArg some heq)]
      | snapshot =>
          obtain rfl : c = c' := Except.ok.inj hedit
          rfl

theorem get?_iff_mem (hdistinct : c.names.Nodup) (name : String) (h : η) :
    c.get? name = some h ↔ (name, h) ∈ c.entries := by
  unfold get?
  rw [Option.map_eq_some_iff]
  simp only [find?_key_iff hdistinct]
  constructor
  · rintro ⟨e, ⟨hmem, rfl⟩, rfl⟩
    exact hmem
  · intro hmem
    exact ⟨(name, h), ⟨hmem, rfl⟩, rfl⟩

/-! ## Histories of a chain -/

namespace Session

theorem run_concat (as : List (Action η)) (a : Action η) : run (as ++ [a]) = (run as).step a := by
  unfold run
  rw [List.foldl_append]
  rfl

theorem chain_concat (as : List (Action η)) (a : Action η) :
    (run (as ++ [a])).chain = (run as).chain.step a := by
  rw [run_concat]
  rfl

end Session

open Session

theorem get?_run_iff (as : List (Action η)) (name : String) (h : η) :
    (run as).chain.get? name = some h ↔
      ∃ i a, Latest (Settles name) as i a ∧ a.handler? = some h :=
  Latest.value_eq_some_iff (fun as => (run as).chain.get? name) Action.handler? rfl
    (by
      rintro as a ⟨hname, c, hedit⟩
      rw [chain_concat]
      exact get?_of_settled hname hedit)
    (by
      intro as a hnot
      rw [chain_concat]
      exact get?_of_not_settled hnot)
    as h

/-- Whatever was put under a name has been removed. -/
def Free (as : List (Action η)) (name : String) : Prop :=
  ∀ (j : Nat) (a : Action η), as[j]? = some a → a.Puts name →
    ∃ k, j < k ∧ as[k]? = some (.remove name)

variable {as : List (Action η)} {a : Action η}

theorem free_concat_iff :
    Free (as ++ [a]) name ↔ a = .remove name ∨ (Free as name ∧ ¬ a.Puts name) := by
  have hend : (as ++ [a])[as.length]? = some a := List.getElem?_concat_length
  constructor
  · intro hfree
    by_cases ha : a = .remove name
    · exact Or.inl ha
    refine Or.inr ⟨fun j b hb hputs => ?_, fun hputs => ?_⟩
    · obtain ⟨k, hjk, hk⟩ := hfree j b (getElem?_concat_iff.mpr (Or.inl hb)) hputs
      rcases getElem?_concat_iff.mp hk with hk | ⟨-, heq⟩
      · exact ⟨k, hjk, hk⟩
      · exact absurd heq ha
    · obtain ⟨k, hlt, hk⟩ := hfree as.length a hend hputs
      have hlt' := lt_length_of_getElem? hk
      rw [List.length_append, List.length_singleton] at hlt'
      omega
  · rintro (rfl | ⟨hfree, hnot⟩) j b hb hputs
    · rcases getElem?_concat_iff.mp hb with hb | ⟨-, rfl⟩
      · exact ⟨as.length, lt_length_of_getElem? hb, hend⟩
      · cases hputs
    · rcases getElem?_concat_iff.mp hb with hb | ⟨-, rfl⟩
      · obtain ⟨k, hjk, hk⟩ := hfree j b hb hputs
        exact ⟨k, hjk, getElem?_concat_iff.mpr (Or.inl hk)⟩
      · exact absurd hputs hnot

/-- A name stays where it came in, or comes in with the action at the end. -/
theorem insertedAt_concat_iff {i : Nat} :
    InsertedAt (as ++ [a]) name i ↔
      (InsertedAt as name i ∧ a ≠ .remove name) ∨ (i = as.length ∧ a.Puts name ∧ Free as name) := by
  constructor
  · rintro ⟨⟨b, hb, hputs⟩, hstays, hfirst⟩
    rcases getElem?_concat_iff.mp hb with hb | ⟨rfl, rfl⟩
    · have hlt := lt_length_of_getElem? hb
      refine Or.inl ⟨⟨⟨b, hb, hputs⟩, fun j hij hj => ?_, fun j c hji hc hputs' => ?_⟩, fun ha => ?_⟩
      · exact hstays j hij (getElem?_concat_iff.mpr (Or.inl hj))
      · obtain ⟨k, hjk, hki, hk⟩ := hfirst j c hji (getElem?_concat_iff.mpr (Or.inl hc)) hputs'
        rcases getElem?_concat_iff.mp hk with hk | ⟨rfl, -⟩
        · exact ⟨k, hjk, hki, hk⟩
        · omega
      · exact hstays as.length hlt (getElem?_concat_iff.mpr (Or.inr ⟨rfl, ha⟩))
    · refine Or.inr ⟨rfl, hputs, fun j c hc hputs' => ?_⟩
      obtain ⟨k, hjk, hki, hk⟩ := hfirst j c (lt_length_of_getElem? hc)
        (getElem?_concat_iff.mpr (Or.inl hc)) hputs'
      rcases getElem?_concat_iff.mp hk with hk | ⟨rfl, -⟩
      · exact ⟨k, hjk, hk⟩
      · omega
  · rintro (⟨⟨⟨b, hb, hputs⟩, hstays, hfirst⟩, ha⟩ | ⟨rfl, hputs, hfree⟩)
    · have hlt := lt_length_of_getElem? hb
      refine ⟨⟨b, getElem?_concat_iff.mpr (Or.inl hb), hputs⟩, fun j hij hj => ?_,
        fun j c hji hc hputs' => ?_⟩
      · rcases getElem?_concat_iff.mp hj with hj | ⟨-, heq⟩
        · exact hstays j hij hj
        · exact ha heq
      · rcases getElem?_concat_iff.mp hc with hc | ⟨rfl, -⟩
        · obtain ⟨k, hjk, hki, hk⟩ := hfirst j c hji hc hputs'
          exact ⟨k, hjk, hki, getElem?_concat_iff.mpr (Or.inl hk)⟩
        · omega
    · refine ⟨⟨a, getElem?_concat_iff.mpr (Or.inr ⟨rfl, rfl⟩), hputs⟩, fun j hlt hj => ?_,
        fun j c hji hc hputs' => ?_⟩
      · have hlt' := lt_length_of_getElem? hj
        rw [List.length_append, List.length_singleton] at hlt'
        omega
      · rcases getElem?_concat_iff.mp hc with hc | ⟨rfl, -⟩
        · obtain ⟨k, hjk, hk⟩ := hfree j c hc hputs'
          exact ⟨k, hjk, lt_length_of_getElem? hk, getElem?_concat_iff.mpr (Or.inl hk)⟩
        · omega

theorem not_mem_names_iff (as : List (Action η)) (name : String) :
    name ∉ (run as).chain.names ↔ Free as name := by
  induction as using List.reverseRecOn with
  | nil =>
      constructor
      · intro _ j a ha
        cases ha
      · intro _ hmem
        cases hmem
  | append_singleton as a ih =>
      rw [chain_concat, mem_names_step_iff, free_concat_iff, ← ih, not_or, not_and_or, not_not]
      constructor
      · rintro ⟨hputs, hnot | ha⟩
        · exact Or.inr ⟨hnot, hputs⟩
        · exact Or.inl ha
      · rintro (rfl | ⟨hnot, hputs⟩)
        · exact ⟨id, Or.inr rfl⟩
        · exact ⟨hputs, Or.inl hnot⟩

theorem mem_names_iff (as : List (Action η)) (name : String) :
    name ∈ (run as).chain.names ↔ ∃ i, InsertedAt as name i := by
  induction as using List.reverseRecOn with
  | nil =>
      constructor
      · intro hmem
        cases hmem
      · rintro ⟨i, ⟨a, ha, -⟩, -⟩
        cases ha
  | append_singleton as a ih =>
      rw [chain_concat, mem_names_step_iff]
      simp only [insertedAt_concat_iff]
      constructor
      · rintro (hputs | ⟨hmem, ha⟩)
        · by_cases hmem : name ∈ (run as).chain.names
          · obtain ⟨i, hi⟩ := ih.mp hmem
            exact ⟨i, Or.inl ⟨hi, hputs.ne_remove name⟩⟩
          · exact ⟨as.length, Or.inr ⟨rfl, hputs, (not_mem_names_iff as name).mp hmem⟩⟩
        · obtain ⟨i, hi⟩ := ih.mp hmem
          exact ⟨i, Or.inl ⟨hi, ha⟩⟩
      · rintro ⟨i, ⟨hi, ha⟩ | ⟨-, hputs, -⟩⟩
        · exact Or.inr ⟨ih.mpr ⟨i, hi⟩, ha⟩
        · exact Or.inl hputs

/-- The names of a chain come and go as its history tells. -/
theorem names_roll : Roll (fun as : List (Action η) => (run as).chain.names) InsertedAt where
  nil := rfl
  lt_length := by
    rintro as name i ⟨⟨a, ha, -⟩, -⟩
    exact lt_length_of_getElem? ha
  stays := by
    intro as a name i hmem _ hi
    rcases insertedAt_concat_iff.mp hi with ⟨hi, -⟩ | ⟨-, -, hfree⟩
    · exact hi
    · exact absurd hmem ((not_mem_names_iff as name).mpr hfree)
  joins := by
    intro as a name i hnot hi
    rcases insertedAt_concat_iff.mp hi with ⟨hi, -⟩ | ⟨rfl, -⟩
    · exact absurd ((mem_names_iff as name).mpr ⟨i, hi⟩) hnot
    · rfl
  changes := by
    intro as a
    simp only [chain_concat]
    exact names_step _ a

/-! ## Lists that were taken -/

theorem length_taken (as : List (Action η)) :
    (run as).taken.length = as.countP Action.isSnapshot := by
  induction as using List.reverseRecOn with
  | nil => rfl
  | append_singleton as a ih =>
      rw [run_concat, List.countP_append, ← ih, List.countP_singleton, Session.step]
      cases a.isSnapshot with
      | true => simp
      | false => simp

/-- Nothing that was taken is lost or changed. -/
theorem taken_prefix (as bs : List (Action η)) : (run as).taken <+: (run (as ++ bs)).taken := by
  induction bs using List.reverseRecOn with
  | nil => exact ⟨[], by rw [List.append_nil, List.append_nil]⟩
  | append_singleton bs b ih =>
      rw [← List.append_assoc, run_concat]
      refine ih.trans ?_
      rw [Session.step]
      cases b.isSnapshot with
      | true => exact List.prefix_append _ _
      | false => exact List.prefix_refl _

theorem getElem?_taken (before rest : List (Action η)) :
    (run (before ++ .snapshot :: rest)).taken[before.countP Action.isSnapshot]? =
      some (run before).chain.entries := by
  obtain ⟨more, hmore⟩ := taken_prefix (before ++ [.snapshot]) rest
  have htaken : (run (before ++ [.snapshot])).taken =
      (run before).taken ++ [(run before).chain.entries] := by
    rw [run_concat]
    rfl
  rw [List.append_assoc, List.singleton_append] at hmore
  rw [← hmore, htaken, ← length_taken, List.append_assoc, List.singleton_append,
    List.getElem?_append_right (Nat.le_refl _), Nat.sub_self]
  rfl

/-- Whatever has been done to a chain, it holds what its history tells. -/
theorem faithful_run (as : List (Action η)) : (run as).Faithful as := by
  have hdistinct : (run as).chain.names.Nodup := names_roll.nodup as
  exact {
    distinct := hdistinct
    get?_iff := get?_run_iff as
    mem_names_iff := mem_names_iff as
    ordered := names_roll.pairwise as
    update_names := fun name h hmem => by rw [names_update, if_pos hmem]
    append_fails_iff := fun _ _ _ => append_fails_iff
    remove_fails_iff := fun _ _ => remove_fails_iff
    refused := by
      intro a e hedit
      unfold Session.step
      rw [step_of_refused hedit]
      cases a with
      | append name h => rfl
      | update name h => rfl
      | remove name => rfl
      | snapshot => cases hedit
    get?_iff_mem := get?_iff_mem hdistinct
    names_eq := rfl
    size_eq := rfl
    snapshots := by
      rintro before rest rfl
      exact getElem?_taken before rest }

end Gateway.Chain
