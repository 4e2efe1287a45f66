import Gateway.Json.Basic
import Mathlib

/-!
# Objects

Under a name an object has what was put there last. The fields of an object that is made of a
list stand in the order of their names, each name once, and a list in this order is the object
that is made of it.
-/

namespace Gateway.Json

theorem find?_insertField (name key : String) (value : Json) (fields : List (String × Json)) :
    (insertField name value fields).find? (·.1 = key) =
      if name = key then some (name, value) else fields.find? (·.1 = key) := by
  induction fields with
  | nil => by_cases h : name = key <;> simp [insertField, h]
  | cons f fields ih =>
    obtain ⟨n, v⟩ := f
    unfold insertField
    split
    · rename_i heq
      subst heq
      by_cases h : name = key <;> simp [h]
    · rename_i hne
      split
      · by_cases h : name = key <;> simp [h]
      · rw [List.find?_cons, List.find?_cons, ih]
        by_cases hn : n = key
        · subst hn
          simp [hne]
        · simp [hn]

/-- Of equal names the last one counts. -/
theorem field?_ofFields (fields : List (String × Json)) (key : String) :
    (ofFields fields).field? key = (fields.reverse.find? (·.1 = key)).map (·.2) := by
  show (List.find? (·.1 = key) (fields.foldl (fun acc f => insertField f.1 f.2 acc) [])).map _ = _
  congr 1
  induction fields using List.reverseRecOn with
  | nil => rfl
  | append_singleton fields f ih =>
    rw [List.foldl_concat, find?_insertField, List.reverse_append, List.reverse_singleton,
      List.singleton_append, List.find?_cons, ih]
    by_cases h : f.1 = key
    · subst h
      simp
    · simp [h]

/-! ## The order of names -/

/-- The names stand in their order, each once. -/
def Ordered (fields : List (String × Json)) : Prop := fields.Pairwise (·.1 < ·.1)

theorem mem_insertField {name : String} {value : Json} {fields : List (String × Json)}
    {f : String × Json} (h : f ∈ insertField name value fields) :
    f = (name, value) ∨ f ∈ fields := by
  induction fields with
  | nil => exact .inl (List.mem_singleton.mp h)
  | cons g fields ih =>
    unfold insertField at h
    split at h
    · exact (List.mem_cons.mp h).imp_right (List.mem_cons_of_mem _)
    · split at h
      · exact List.mem_cons.mp h
      · rcases List.mem_cons.mp h with rfl | hrest
        · exact .inr List.mem_cons_self
        · exact (ih hrest).imp_right (List.mem_cons_of_mem _)

theorem ordered_insertField {fields : List (String × Json)} (h : Ordered fields) (name : String)
    (value : Json) : Ordered (insertField name value fields) := by
  induction fields with
  | nil => exact List.pairwise_singleton _ _
  | cons f fields ih =>
    obtain ⟨n, v⟩ := f
    obtain ⟨hn, hrest⟩ := List.pairwise_cons.mp h
    unfold insertField
    split
    · rename_i heq
      subst heq
      exact List.pairwise_cons.mpr ⟨hn, hrest⟩
    · rename_i hne
      split
      · rename_i hlt
        refine List.pairwise_cons.mpr ⟨?_, h⟩
        intro g hg
        rcases List.mem_cons.mp hg with rfl | hg
        · exact hlt
        · exact String.lt_trans hlt (hn g hg)
      · rename_i hle
        have hlt : n < name := lt_of_le_of_ne (not_lt.mp hle) (Ne.symm hne)
        refine List.pairwise_cons.mpr ⟨?_, ih hrest⟩
        intro g hg
        rcases mem_insertField hg with rfl | hg
        · exact hlt
        · exact hn g hg

theorem ordered_foldl (fields : List (String × Json)) :
    Ordered (fields.foldl (fun acc f => insertField f.1 f.2 acc) []) := by
  induction fields using List.reverseRecOn with
  | nil => exact List.Pairwise.nil
  | append_singleton fields f ih =>
    rw [List.foldl_concat]
    exact ordered_insertField ih f.1 f.2

/-- A name behind all others goes to the end. -/
theorem insertField_of_lt {name : String} {value : Json} {fields : List (String × Json)}
    (h : ∀ f ∈ fields, f.1 < name) : insertField name value fields = fields ++ [(name, value)] := by
  induction fields with
  | nil => rfl
  | cons f fields ih =>
    have hlt := h f List.mem_cons_self
    unfold insertField
    rw [if_neg hlt.ne', if_neg hlt.not_gt, ih fun g hg => h g (List.mem_cons_of_mem f hg)]
    rfl

theorem Ordered.ofFields_eq {fields : List (String × Json)} (h : Ordered fields) :
    ofFields fields = .obj fields := by
  show Json.obj (fields.foldl (fun acc f => insertField f.1 f.2 acc) []) = _
  congr 1
  induction fields using List.reverseRecOn with
  | nil => rfl
  | append_singleton fields f ih =>
    obtain ⟨hfields, -, hlast⟩ := List.pairwise_append.mp h
    rw [List.foldl_concat, ih hfields]
    exact insertField_of_lt fun g hg => hlast g hg f (List.mem_singleton_self f)

end Gateway.Json
