import Gateway.Domain.Name
import Mathlib.Data.List.DropRight
import Mathlib.Data.List.InsertIdx
import Mathlib.Tactic

/-!
# The ASCII form of a name

However a domain name is written, its ASCII form is ASCII and holds no character that a host
may not hold. What is not ASCII goes into the letters and digits of Punycode; what is ASCII
stays, and has been looked at by then, also inside a label that comes in Punycode already.
-/

namespace Gateway.Domain

/-- None of the characters is refused in the name of a host. -/
def Unrefused (cs : List Char) : Prop := ∀ c ∈ cs, isDenied c = false

/-- All characters are ASCII, and none is refused in the name of a host. -/
def Permitted (cs : List Char) : Prop := ∀ c ∈ cs, isAscii c = true ∧ isDenied c = false

/-- There are few enough ASCII characters to look at each. -/
theorem of_isAscii {P : Char → Prop} (h : ∀ n < 0x80, P (Char.ofNat n)) {c : Char}
    (hc : isAscii c = true) : P c := by
  have hnumber := h c.toNat (of_decide_eq_true hc)
  rwa [Char.ofNat_toNat] at hnumber

theorem permitted_of_all {cs : List Char} (h : cs.all (fun c => isAscii c && !isDenied c) = true) :
    Permitted cs := by
  intro c hc
  simpa using List.all_eq_true.mp h c hc

theorem permitted_nil : Permitted [] := fun _ hc => absurd hc List.not_mem_nil

theorem Permitted.append {cs ds : List Char} (hcs : Permitted cs) (hds : Permitted ds) :
    Permitted (cs ++ ds) := by
  intro c hc
  rcases List.mem_append.mp hc with h | h
  · exact hcs c h
  · exact hds c h

theorem isAscii_of_isDenied {c : Char} (h : isDenied c = true) : isAscii c = true := by
  have hmarks : deniedMarks.all isAscii = true := by decide
  simp only [isDenied, Bool.or_eq_true, decide_eq_true_eq, List.contains_iff_mem] at h
  rcases h with (hlow | hdelete) | hmark
  · simp only [isAscii, decide_eq_true_eq]
    omega
  · simp only [isAscii, decide_eq_true_eq]
    omega
  · exact List.all_eq_true.mp hmarks c hmark

theorem unrefused_of_isWellFormed {label : List Char} (h : isWellFormed label = true) :
    Unrefused label := by
  intro c hc
  simp only [isWellFormed, Bool.and_eq_true, List.all_eq_true] at h
  cases hdenied : isDenied c with
  | false => rfl
  | true =>
    have := h.2 c hc
    simp [hdenied, isAscii_of_isDenied hdenied] at this

/-! ## Punycode -/

namespace Punycode

theorem digitChar_permitted :
    ∀ d < 36, isAscii (digitChar d) = true ∧ isDenied (digitChar d) = false := by decide

theorem digitValue?_ascii {c : Char} (h : (digitValue? c).isSome = true) : isAscii c = true := by
  -- Digits are among the small letters, the capital ones and the decimal digits.
  have hbound : ∀ d : Char, c ≤ d → isAscii d = true → isAscii c = true := by
    intro d hle hd
    have hle : c.toNat ≤ d.toNat := hle
    simp only [isAscii, decide_eq_true_eq] at hd ⊢
    omega
  unfold digitValue? at h
  split at h
  · rename_i hsmall
    simp only [Bool.and_eq_true, decide_eq_true_eq] at hsmall
    exact hbound 'z' hsmall.2 (by decide)
  · split at h
    · rename_i hcapital
      simp only [Bool.and_eq_true, decide_eq_true_eq] at hcapital
      exact hbound 'Z' hcapital.2 (by decide)
    · split at h
      · rename_i hdigit
        simp only [Char.isDigit, Bool.and_eq_true, decide_eq_true_eq] at hdigit
        exact hbound '9' hdigit.2 (by decide)
      · cases h

theorem digitValue?_permitted {c : Char} (h : (digitValue? c).isSome = true) :
    isAscii c = true ∧ isDenied c = false := by
  have hascii := digitValue?_ascii h
  exact ⟨hascii, of_isAscii (P := fun c => (digitValue? c).isSome = true → isDenied c = false)
    (by decide) hascii h⟩

theorem digitValue?_isSome {c : Char} (h : c.isDigit = true) : (digitValue? c).isSome = true := by
  unfold digitValue?
  split_ifs <;> rfl

/-- The digits of a number stay below the base, the last one even below its threshold. -/
theorem numberDigits_permitted (bias k q : Nat) : Permitted (numberDigits bias k q) := by
  fun_induction numberDigits bias k q with
  | case1 k q t hlast =>
    intro c hc
    rw [List.mem_singleton] at hc
    rw [hc]
    apply digitChar_permitted
    have := threshold_le bias k
    omega
  | case2 k q t hmore ih =>
    intro c hc
    rcases List.mem_cons.mp hc with hhead | htail
    · rw [hhead]
      apply digitChar_permitted
      have hle : t ≤ 26 := threshold_le bias k
      have := Nat.mod_lt (q - t) (show 0 < 36 - t by omega)
      omega
    · exact ih c htail

theorem visit_permitted (basics m : Nat) {p : Place} (hp : Permitted p.digits) (c : Char) :
    Permitted (p.visit basics m c).digits := by
  unfold Place.visit
  split
  · exact hp
  · split
    · exact hp.append (numberDigits_permitted _ _ _)
    · exact hp

theorem foldl_visit_permitted (basics m : Nat) (label : List Char) {p : Place}
    (hp : Permitted p.digits) : Permitted (label.foldl (Place.visit basics m) p).digits := by
  induction label generalizing p with
  | nil => exact hp
  | cons c label ih => exact ih (visit_permitted basics m hp c)

theorem insertAll_permitted (label : List Char) (basics : Nat) (codes : List Nat) :
    ∀ (n : Nat) {p : Place}, Permitted p.digits →
      Permitted (Place.insertAll label basics n p codes).digits := by
  induction codes with
  | nil => exact fun n p hp => hp
  | cons m rest ih =>
    intro n p hp
    apply ih (m + 1)
    exact foldl_visit_permitted basics m label hp

theorem encode_permitted {label : List Char} (h : Unrefused label) : Permitted (encode label) := by
  have hbasics : Permitted (label.filter isBasic) := by
    intro c hc
    obtain ⟨hmem, hbasic⟩ := List.mem_filter.mp hc
    exact ⟨hbasic, h c hmem⟩
  have hlead : Permitted (if (label.filter isBasic).isEmpty then []
      else label.filter isBasic ++ ['-']) := by
    split
    · exact permitted_nil
    · exact hbasics.append (permitted_of_all (by decide))
  exact hlead.append (insertAll_permitted _ _ _ _ permitted_nil)

theorem number?_permitted {bias k weight acc : Nat} {cs rest : List Char} {n : Nat}
    (h : number? bias k weight acc cs = some (n, rest)) :
    ∃ ds, cs = ds ++ rest ∧ Permitted ds := by
  induction cs generalizing k weight acc with
  | nil => cases h
  | cons c cs ih =>
    simp only [number?] at h
    split at h
    · cases h
    · rename_i d hd
      have hc := digitValue?_permitted (c := c) (by rw [hd]; rfl)
      have hone : Permitted [c] := fun x hx => List.mem_singleton.mp hx ▸ hc
      split at h
      · cases h
        exact ⟨[c], rfl, hone⟩
      · obtain ⟨ds, rfl, hds⟩ := ih h
        exact ⟨c :: ds, rfl, hone.append hds⟩

/-- What comes out holds all that was there before, and what was read is made of digits. -/
theorem insertions?_permitted {bias n i : Nat} {out cs label : List Char}
    (h : insertions? bias n i out cs = some label) : out ⊆ label ∧ Permitted cs := by
  fun_induction insertions? bias n i out cs with
  | case1 bias n i out cs hempty =>
    cases h
    rw [List.isEmpty_iff.mp hempty]
    exact ⟨fun c hc => hc, permitted_nil⟩
  | case2 => cases h
  | case3 bias n i out cs hmore next rest hnumber size code hlength hscalar ih =>
    obtain ⟨hsubset, hrest⟩ := ih h
    obtain ⟨ds, rfl, hds⟩ := number?_permitted hnumber
    exact ⟨fun c hc => hsubset (List.subset_insertIdx _ _ _ hc), hds.append hrest⟩
  | case4 => cases h

/-- What stands before the part behind the last hyphen ends with that hyphen. -/
theorem splitLast_append (cs : List Char) :
    cs.rdropWhile (· ≠ '-') ++ (splitLast cs).2 = cs :=
  List.rdropWhile_append_rtakeWhile

theorem splitLast_fst (cs : List Char) :
    (splitLast cs).1 = (cs.rdropWhile (· ≠ '-')).dropLast := by
  have hsplit := splitLast_append cs
  have hlength := congrArg List.length hsplit
  rw [List.length_append] at hlength
  show cs.take (cs.length - (splitLast cs).2.length - 1) = _
  rw [List.dropLast_eq_take, ← List.take_append_of_le_length (Nat.sub_le _ 1), hsplit]
  congr 1
  omega

/-- A text is the part before its last hyphen, that hyphen and the part behind it. -/
theorem mem_splitLast {cs : List Char} {c : Char} (h : c ∈ cs) :
    c ∈ (splitLast cs).1 ∨ c = '-' ∨ c ∈ (splitLast cs).2 := by
  rw [← splitLast_append cs, List.mem_append] at h
  rcases h with hfront | hbehind
  · have hne := List.ne_nil_of_mem hfront
    rw [← List.dropLast_append_getLast hne, List.mem_append, List.mem_singleton] at hfront
    rcases hfront with hbefore | hlast
    · left
      rw [splitLast_fst]
      exact hbefore
    · right
      left
      simpa [hlast] using List.rdropWhile_last_not _ _ hne
  · exact .inr (.inr hbehind)

/-- The ASCII characters of a label that is read stand in it as they are. -/
theorem decode?_permitted {cs label : List Char} (h : decode? cs = some label)
    (hlabel : Unrefused label) : Permitted cs := by
  unfold decode? at h
  simp only at h
  split at h
  · rename_i hbasics
    obtain ⟨hsubset, hnumbers⟩ := insertions?_permitted h
    intro c hc
    rcases mem_splitLast hc with hbasic | rfl | hnumber
    · exact ⟨List.all_eq_true.mp hbasics c hbasic, hlabel c (hsubset hbasic)⟩
    · exact ⟨rfl, rfl⟩
    · exact hnumbers c hnumber
  · cases h

end Punycode

/-! ## Labels and names -/

theorem ofPunycode?_permitted {cs : List Char} {l : Label} (h : Label.ofPunycode? cs = some l) :
    Permitted l.ascii := by
  unfold Label.ofPunycode? at h
  split at h
  · cases h
  · split at h
    · cases h
    · rename_i label hdecode
      split at h
      · rename_i hgood
        cases h
        simp only [Bool.and_eq_true] at hgood
        have hlabel := unrefused_of_isWellFormed hgood.1.1.2
        exact Permitted.append (permitted_of_all (by decide))
          (Punycode.decode?_permitted hdecode hlabel)
      · cases h

theorem ofMapped?_permitted {cs : List Char} {l : Label} (h : Label.ofMapped? cs = some l) :
    Permitted l.ascii := by
  unfold Label.ofMapped? at h
  split at h
  · exact ofPunycode?_permitted h
  · split at h
    · rename_i hascii
      split at h
      · cases h
      · rename_i hnone
        cases h
        intro c hc
        simp only [List.any_eq_true, not_exists, not_and, Bool.not_eq_true] at hnone
        exact ⟨List.all_eq_true.mp hascii c hc, hnone c hc⟩
    · split at h
      · rename_i hgood
        cases h
        have hcs := unrefused_of_isWellFormed (Bool.and_eq_true _ _ ▸ hgood).1
        exact Permitted.append (permitted_of_all (by decide)) (Punycode.encode_permitted hcs)
      · cases h

theorem joinLabels_permitted {ls : List (List Char)} (h : ∀ l ∈ ls, Permitted l) :
    Permitted (joinLabels ls) := by
  fun_induction joinLabels ls with
  | case1 => exact permitted_nil
  | case2 l => exact h l (List.mem_singleton_self l)
  | case3 l rest hmore ih =>
    have hdot : Permitted ['.'] := permitted_of_all (by decide)
    have hrest := ih fun l' hl' => h l' (List.mem_cons_of_mem l hl')
    exact (h l List.mem_cons_self).append (hdot.append hrest)

theorem mapM_ofMapped?_permitted {css : List (List Char)} {ls : List Label}
    (h : css.mapM Label.ofMapped? = some ls) : ∀ l ∈ ls, Permitted l.ascii := by
  induction css generalizing ls with
  | nil =>
    cases h
    exact fun l hl => absurd hl List.not_mem_nil
  | cons cs css ih =>
    simp only [List.mapM_cons, Option.bind_eq_bind, Option.bind_eq_some_iff] at h
    obtain ⟨l, hl, ls', hls', hcons⟩ := h
    cases hcons
    intro l' hl'
    rcases List.mem_cons.mp hl' with rfl | hrest
    · exact ofMapped?_permitted hl
    · exact ih hls' l' hrest

/-- The ASCII form of a name may stand as a host. -/
theorem toAscii?_permitted {cs name : List Char} (h : toAscii? cs = some name) :
    Permitted name := by
  simp only [toAscii?, Option.bind_eq_bind, Option.bind_eq_some_iff] at h
  obtain ⟨chars, -, ls, hls, hname⟩ := h
  split at hname
  · cases hname
  · cases hname
    apply joinLabels_permitted
    intro cs' hcs'
    obtain ⟨l, hl, rfl⟩ := List.mem_map.mp hcs'
    exact mapM_ofMapped?_permitted hls l hl

end Gateway.Domain
