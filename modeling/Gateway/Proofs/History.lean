import Mathlib.Data.List.Basic
import Mathlib.Data.List.Induction
import Mathlib.Data.List.Nodup

/-!
# Histories

What a pool or a chain holds goes by keys of its own, and is told by the list of what has been
done to it. Two ways of reading such a list are common to them: a value is what the last item
that counts for it gives, and the members of a list stand in the order in which they came.
-/

namespace Gateway

variable {ε γ : Type}

/-- Among distinct keys, what is found under a key is what has it. -/
theorem find?_key_iff {key : γ → String} {xs : List γ} (h : (xs.map key).Nodup) (k : String)
    (x : γ) : xs.find? (fun y => key y = k) = some x ↔ x ∈ xs ∧ key x = k := by
  constructor
  · intro hfind
    exact ⟨List.mem_of_find?_eq_some hfind, by simpa using List.find?_some hfind⟩
  · rintro ⟨hx, rfl⟩
    have hsome : (xs.find? fun y => key y = key x).isSome :=
      List.find?_isSome.mpr ⟨x, hx, decide_eq_true rfl⟩
    obtain ⟨y, hfind⟩ := Option.isSome_iff_exists.mp hsome
    have hkey : key y = key x := by simpa using List.find?_some hfind
    rw [hfind, List.inj_on_of_nodup_map h (List.mem_of_find?_eq_some hfind) hx hkey]

/-- An item of a history with one more item at the end. -/
theorem getElem?_concat_iff {as : List ε} {a b : ε} {i : Nat} :
    (as ++ [a])[i]? = some b ↔ as[i]? = some b ∨ (i = as.length ∧ a = b) := by
  rcases Nat.lt_trichotomy i as.length with hlt | rfl | hlt
  · rw [List.getElem?_append_left hlt]
    constructor
    · exact Or.inl
    · rintro (h | ⟨heq, -⟩)
      · exact h
      · exact absurd heq (Nat.ne_of_lt hlt)
  · rw [List.getElem?_concat_length, List.getElem?_eq_none (Nat.le_refl _)]
    simp
  · rw [List.getElem?_eq_none (by rw [List.length_append, List.length_singleton]; omega),
      List.getElem?_eq_none (Nat.le_of_lt hlt)]
    simp [Nat.ne_of_gt hlt]

theorem lt_length_of_getElem? {as : List ε} {a : ε} {i : Nat} (h : as[i]? = some a) :
    i < as.length :=
  (List.getElem?_eq_some_iff.mp h).1

/-- Item `i` of a history is the last one that counts. Whether an item counts may depend on
what stands before it. -/
structure Latest (Counts : List ε → ε → Prop) (as : List ε) (i : Nat) (a : ε) : Prop where
  here : as[i]? = some a
  counts : Counts (as.take i) a
  last : ∀ j b, i < j → as[j]? = some b → ¬ Counts (as.take j) b

namespace Latest

variable {Counts : List ε → ε → Prop} {as : List ε} {i j : Nat} {a b : ε}

theorem lt_length (h : Latest Counts as i a) : i < as.length :=
  lt_length_of_getElem? h.here

/-- One more item at the end is the last one that counts, or does not count. -/
theorem concat_iff :
    Latest Counts (as ++ [b]) i a ↔
      (i = as.length ∧ a = b ∧ Counts as b) ∨ (¬ Counts as b ∧ Latest Counts as i a) := by
  have hend : (as ++ [b])[as.length]? = some b := List.getElem?_concat_length
  have htake : ∀ {j c}, as[j]? = some c → (as ++ [b]).take j = as.take j := fun hc =>
    List.take_append_of_le_length (Nat.le_of_lt (lt_length_of_getElem? hc))
  have hall : (as ++ [b]).take as.length = as := List.take_left
  constructor
  · intro h
    rcases getElem?_concat_iff.mp h.here with hhere | ⟨rfl, rfl⟩
    · right
      refine ⟨fun hcounts => ?_, hhere, htake hhere ▸ h.counts, fun j c hij hc => ?_⟩
      · have hlast := h.last as.length b (lt_length_of_getElem? hhere) hend
        rw [hall] at hlast
        exact hlast hcounts
      · rw [← htake hc]
        exact h.last j c hij (getElem?_concat_iff.mpr (Or.inl hc))
    · exact Or.inl ⟨rfl, rfl, hall ▸ h.counts⟩
  · rintro (⟨rfl, rfl, hcounts⟩ | ⟨hnot, h⟩)
    · refine ⟨hend, by rwa [hall], fun j c hlt hc => ?_⟩
      have hj := lt_length_of_getElem? hc
      rw [List.length_append, List.length_singleton] at hj
      omega
    · refine ⟨getElem?_concat_iff.mpr (Or.inl h.here), by rw [htake h.here]; exact h.counts,
        fun j c hij hc => ?_⟩
      rcases getElem?_concat_iff.mp hc with hc | ⟨rfl, rfl⟩
      · rw [htake hc]
        exact h.last j c hij hc
      · rwa [hall]

/-- A value that is set by the items that count, and left alone by the others, is what the
last one that counts gives. -/
theorem value_eq_some_iff (value : List ε → Option γ) (gives : ε → Option γ)
    (hnil : value [] = none)
    (hcounts : ∀ as a, Counts as a → value (as ++ [a]) = gives a)
    (hother : ∀ as a, ¬ Counts as a → value (as ++ [a]) = value as) (as : List ε) (x : γ) :
    value as = some x ↔ ∃ i a, Latest Counts as i a ∧ gives a = some x := by
  induction as using List.reverseRecOn with
  | nil =>
      rw [hnil]
      constructor
      · intro h
        cases h
      · rintro ⟨i, a, h, -⟩
        exact absurd h.lt_length (Nat.not_lt_zero i)
  | append_singleton as b ih =>
      simp only [concat_iff]
      by_cases hb : Counts as b
      · rw [hcounts as b hb]
        constructor
        · intro hx
          exact ⟨as.length, b, Or.inl ⟨rfl, rfl, hb⟩, hx⟩
        · rintro ⟨i, a, ⟨-, rfl, -⟩ | ⟨hnot, -⟩, hx⟩
          · exact hx
          · exact absurd hb hnot
      · rw [hother as b hb, ih]
        constructor
        · rintro ⟨i, a, h, hx⟩
          exact ⟨i, a, Or.inr ⟨hb, h⟩, hx⟩
        · rintro ⟨i, a, ⟨-, -, hcounts⟩ | ⟨-, h⟩, hx⟩
          · exact absurd hcounts hb
          · exact ⟨i, a, h, hx⟩

end Latest

/-- A list that some members leave with an item of its history, or that a new member joins at
the end. `At` tells by which item a member came. -/
structure Roll (roll : List ε → List γ) (At : List ε → γ → Nat → Prop) : Prop where
  nil : roll [] = []
  lt_length : ∀ {as x i}, At as x i → i < as.length
  stays : ∀ {as a x i}, x ∈ roll as → x ∈ roll (as ++ [a]) → At (as ++ [a]) x i → At as x i
  joins : ∀ {as a x i}, x ∉ roll as → At (as ++ [a]) x i → i = as.length
  changes : ∀ as a, (roll (as ++ [a])).Sublist (roll as) ∨
    ∃ x, x ∉ roll as ∧ roll (as ++ [a]) = roll as ++ [x]

namespace Roll

variable {roll : List ε → List γ} {At : List ε → γ → Nat → Prop}

theorem nodup (h : Roll roll At) (as : List ε) : (roll as).Nodup := by
  induction as using List.reverseRecOn with
  | nil =>
      rw [h.nil]
      exact List.nodup_nil
  | append_singleton as a ih =>
      rcases h.changes as a with hsub | ⟨x, hx, heq⟩
      · exact ih.sublist hsub
      · rw [heq, ← List.concat_eq_append]
        exact ih.concat hx

/-- The members stand in the order in which they came. -/
theorem pairwise (h : Roll roll At) (as : List ε) :
    (roll as).Pairwise fun x y => ∀ i j, At as x i → At as y j → i < j := by
  induction as using List.reverseRecOn with
  | nil =>
      rw [h.nil]
      exact List.Pairwise.nil
  | append_singleton as a ih =>
      rcases h.changes as a with hsub | ⟨x, hx, heq⟩
      · refine (ih.sublist hsub).imp_of_mem ?_
        intro y z hy hz hyz i j hi hj
        exact hyz i j (h.stays (hsub.subset hy) hy hi) (h.stays (hsub.subset hz) hz hj)
      · have hold : ∀ y ∈ roll as, ∀ i, At (as ++ [a]) y i → At as y i := by
          intro y hy i hi
          exact h.stays hy (by rw [heq]; exact List.mem_append_left _ hy) hi
        rw [heq, List.pairwise_append]
        refine ⟨ih.imp_of_mem ?_, List.pairwise_singleton _ x, ?_⟩
        · intro y z hy hz hyz i j hi hj
          exact hyz i j (hold y hy i hi) (hold z hz j hj)
        · intro y hy z hz i j hi hj
          obtain rfl : z = x := List.mem_singleton.mp hz
          rw [h.joins hx hj]
          exact h.lt_length (hold y hy i hi)

end Roll

end Gateway
