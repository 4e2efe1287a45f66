import Gateway.Http.Uri
import Mathlib.Data.List.TakeWhile
import Mathlib.Tactic

/-!
# Targets that are read

A target that is read has one of four forms. Its path and query hold only characters that
they may hold, so they read as themselves when they are written out again. An authority
ends where the first slash, question mark or number sign stands.
-/

namespace Gateway

namespace PathQuery

/-- A path ends at a question mark or a number sign. -/
def inPath (c : Char) : Bool := c ≠ '?' && c ≠ '#'

/-- Path and query hold only what they may hold. -/
structure Legible (p : PathQuery) : Prop where
  path : ∀ c ∈ p.path.toList, isPathChar c = true ∧ inPath c = true
  query : ∀ q, p.query = some q → ∀ c ∈ q.toList, isQueryChar c = true ∧ c ≠ '#'

theorem path_of_parse {cs : List Char} {p : PathQuery} (h : parse cs = .ok p) :
    p.path.toList = cs.takeWhile inPath := by
  unfold parse at h
  simp only at h
  split at h
  · cases h
  · split at h
    · split at h
      · cases h
        exact String.toList_ofList
      · cases h
    · cases h
      exact String.toList_ofList

theorem legible_of_parse {cs : List Char} {p : PathQuery} (h : parse cs = .ok p) :
    p.Legible := by
  constructor
  · intro c hc
    rw [path_of_parse h] at hc
    refine ⟨?_, List.mem_takeWhile_imp hc⟩
    unfold parse at h
    simp only at h
    split at h
    · cases h
    · rename_i hall
      simp only [Bool.not_eq_true, Bool.not_eq_false', List.all_eq_true] at hall
      exact hall c hc
  · intro q hq c hc
    unfold parse at h
    simp only at h
    split at h
    · cases h
    · split at h
      · rename_i more _
        split at h
        · rename_i hall
          cases h
          cases hq
          rw [String.toList_ofList] at hc
          refine ⟨List.all_eq_true.mp hall c hc, ?_⟩
          simpa using List.mem_takeWhile_imp hc
        · cases h
      · cases h
        cases hq

/-- What is legible is read as it is written. -/
theorem parse_withQuery {p : PathQuery} (h : p.Legible) :
    parse (withQuery p.path p.query).toList = .ok p := by
  have hpath : ∀ c ∈ p.path.toList, inPath c = true := fun c hc => (h.path c hc).2
  have hchars : p.path.toList.all isPathChar = true :=
    List.all_eq_true.mpr fun c hc => (h.path c hc).1
  obtain ⟨path, query⟩ := p
  cases query with
  | none =>
    have htake : path.toList.takeWhile inPath = path.toList := List.takeWhile_eq_self_iff.mpr hpath
    have hdrop : path.toList.dropWhile inPath = [] := List.dropWhile_eq_nil_iff.mpr hpath
    show parse path.toList = _
    unfold parse
    simp only [show (fun c : Char => decide (c ≠ '?') && decide (c ≠ '#')) = inPath from rfl,
      htake, hdrop, hchars, String.ofList_toList, Bool.not_true, Bool.false_eq_true, if_false]
  | some q =>
    have hquery : q.toList.all isQueryChar = true :=
      List.all_eq_true.mpr fun c hc => (h.query q rfl c hc).1
    have hmark : q.toList.takeWhile (· ≠ '#') = q.toList := by
      rw [List.takeWhile_eq_self_iff]
      intro c hc
      simpa using (h.query q rfl c hc).2
    have htake : (path.toList ++ '?' :: q.toList).takeWhile inPath = path.toList := by
      rw [List.takeWhile_append_of_pos hpath]
      exact List.append_nil _
    have hdrop : (path.toList ++ '?' :: q.toList).dropWhile inPath = '?' :: q.toList := by
      rw [List.dropWhile_append_of_pos hpath]
      rfl
    have htext : (withQuery path (some q)).toList = path.toList ++ '?' :: q.toList := by
      simp [withQuery]
    rw [htext]
    unfold parse
    simp only [show (fun c : Char => decide (c ≠ '?') && decide (c ≠ '#')) = inPath from rfl,
      htake, hdrop, hmark, hchars, hquery, String.ofList_toList, Bool.not_true,
      Bool.false_eq_true, if_false, if_true]

end PathQuery

namespace Uri

/-! ## The end of an authority -/

/-- An authority ends at a slash, a question mark or a number sign. -/
def inAuthority (c : Char) : Bool := !(c = '/' || c = '?' || c = '#')

theorem rest_of_scanAuthority {s s' : AuthorityScan} {cs rest : List Char}
    (h : scanAuthority s cs = .ok (s', rest)) : rest = cs.dropWhile inAuthority := by
  induction cs generalizing s with
  | nil =>
    cases h
    rfl
  | cons c cs ih =>
    unfold scanAuthority at h
    split at h
    · rename_i hend
      cases h
      rw [List.dropWhile_cons_of_neg]
      simpa [inAuthority, or_iff_not_imp_left] using hend
    · rename_i hend
      have hin : inAuthority c = true := by
        simpa [inAuthority, not_or, and_assoc] using hend
      rw [List.dropWhile_cons_of_pos hin]
      -- Each of the other characters passes the scan on or stops it with a fault.
      repeat' split at h
      all_goals first | exact ih h | cases h

theorem parts_of_splitAuthority {cs a rest : List Char} (h : splitAuthority cs = .ok (a, rest)) :
    a = cs.takeWhile inAuthority ∧ rest = cs.dropWhile inAuthority := by
  have htake : ∀ front behind : List Char,
      (front ++ behind).take ((front ++ behind).length - behind.length) = front := by simp
  have hfront := htake (cs.takeWhile inAuthority) (cs.dropWhile inAuthority)
  rw [List.takeWhile_append_dropWhile] at hfront
  unfold splitAuthority at h
  split at h
  · cases h
  · rename_i s behind hscan
    have hbehind := rest_of_scanAuthority hscan
    rw [← hbehind] at hfront
    repeat' split at h
    all_goals cases h
    exact ⟨hfront, hbehind⟩

theorem authority_of_rest_nil {cs a rest : List Char} (h : splitAuthority cs = .ok (a, rest))
    (hrest : rest.isEmpty = true) : a = cs := by
  obtain ⟨ha, hdrop⟩ := parts_of_splitAuthority h
  rw [ha, List.takeWhile_eq_self_iff, ← List.dropWhile_eq_nil_iff, ← hdrop]
  exact List.isEmpty_iff.mp hrest

/-! ## Forms of targets -/

def asterisk : Uri := ⟨none, none, ⟨"*", none⟩⟩

/-- The forms that a target may have. -/
inductive Form : Uri → Prop
  | asterisk : Form asterisk
  | origin (p : PathQuery) (hp : p.Legible) (hroot : p.path.toList.head? = some '/') :
      Form ⟨none, none, p⟩
  | authority (a : String) : Form ⟨none, some a, ⟨"", none⟩⟩
  | absolute (s a : String) (p : PathQuery) (hp : p.Legible)
      (hroot : p.path = "" ∨ p.path.toList.head? = some '/') : Form ⟨some s, some a, p⟩

theorem nonempty_of_ne_nil {cs : List Char} (h : cs ≠ []) :
    nonempty cs = some (String.ofList cs) := by
  simp [nonempty, h]

theorem rest_of_splitScheme {cs rest : List Char} (h : splitScheme cs = .ok (none, rest)) :
    rest = cs := by
  unfold splitScheme at h
  split at h
  · cases h
  · split at h
    · cases h
    · split at h
      · cases h
        rfl
      · simp only at h
        split at h
        · split at h <;> cases h
        · cases h
          rfl

/-- What follows an authority has no path or one that begins with a slash. -/
theorem root_of_parse {cs : List Char} {p : PathQuery}
    (h : PathQuery.parse (cs.dropWhile inAuthority) = .ok p) :
    p.path = "" ∨ p.path.toList.head? = some '/' := by
  have hpath := PathQuery.path_of_parse h
  have hhead := List.head?_dropWhile_not inAuthority cs
  cases hrest : cs.dropWhile inAuthority with
  | nil =>
    rw [hrest] at hpath
    exact .inl (String.toList_inj.mp hpath)
  | cons c rest =>
    rw [hrest] at hpath hhead
    simp only [List.head?_cons, inAuthority, Bool.not_eq_false', Bool.or_eq_true,
      decide_eq_true_eq] at hhead
    rcases hhead with (rfl | rfl) | rfl
    · exact .inr (by rw [hpath]; rfl)
    · exact .inl (String.toList_inj.mp hpath)
    · exact .inl (String.toList_inj.mp hpath)

theorem form_of_parseFull {cs : List Char} {u : Uri} (hcs : cs ≠ [])
    (h : parseFull cs = .ok u) : Form u := by
  unfold parseFull at h
  simp only [bind, Except.bind] at h
  split at h
  · cases h
  · rename_i parts hscheme
    obtain ⟨scheme, rest⟩ := parts
    split at h
    · cases h
    · rename_i parts' hauthority
      obtain ⟨a, path⟩ := parts'
      obtain ⟨ha, hpath⟩ := parts_of_splitAuthority hauthority
      simp only at h
      split at h
      · split at h
        · rename_i hempty
          cases h
          -- Nothing is left over, so the authority is all there is.
          have hall := authority_of_rest_nil (rest_of_splitScheme hscheme ▸ hauthority) hempty
          rw [nonempty_of_ne_nil (hall ▸ hcs)]
          exact .authority _
        · cases h
      · split at h
        · cases h
        · rename_i hne
          split at h
          · cases h
          · rename_i p hp
            cases h
            rw [nonempty_of_ne_nil fun hnil => hne (List.isEmpty_iff.mpr hnil)]
            exact .absolute _ _ p (PathQuery.legible_of_parse hp) (root_of_parse (hpath ▸ hp))

theorem form_of_parse {cs : List Char} {u : Uri} (h : parse cs = .ok u) : Form u := by
  unfold parse at h
  split at h
  · cases h
  · split at h
    · cases h
    · cases h
      exact .asterisk
    · rename_i cs _
      cases hp : PathQuery.parse ('/' :: cs) with
      | error f =>
        rw [hp] at h
        cases h
      | ok p =>
        rw [hp] at h
        cases h
        refine .origin p (PathQuery.legible_of_parse hp) ?_
        rw [PathQuery.path_of_parse hp]
        rfl
    · split at h
      · cases h
      · split at h
        · cases h
        · rename_i hsplit
          split at h
          · rename_i hempty
            cases h
            rw [authority_of_rest_nil hsplit hempty, nonempty_of_ne_nil (List.cons_ne_nil _ _)]
            exact .authority _
          · cases h
    · rename_i hcs _ _ _
      exact form_of_parseFull (fun hnil => hcs hnil) h

theorem form_of_ofString {s : String} {u : Uri} (h : ofString s = .ok u) : Form u :=
  form_of_parse h

end Uri

end Gateway
