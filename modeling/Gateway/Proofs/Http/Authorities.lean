import Gateway.Proofs.Http.Targets

/-!
# Authorities that are read

The scan of an authority passes over what has no meaning in it, counts the colons and stops
at the first character that no URI may hold. What it has counted by the end decides whether
the authority is split off: a host and a port are, with or without brackets.
-/

namespace Gateway.Uri

/-- The characters of URIs that have a meaning in an authority. -/
def authorityMarks : List Char := ['/', '?', '#', ':', '[', ']', '@']

/-- A character that a URI may hold and that has no meaning in an authority. -/
def isUnmarked (c : Char) : Bool := isUriChar c && !authorityMarks.contains c

theorem isUriChar_of_isAlphanum {c : Char} (h : c.isAlphanum = true) : isUriChar c = true := by
  simp [isUriChar, h]

theorem isUnmarked_of_isAlphanum {c : Char} (h : c.isAlphanum = true) : isUnmarked c = true := by
  have hall : authorityMarks.all (!·.isAlphanum) = true := by decide
  have hmarks : c ∉ authorityMarks := by
    intro hc
    have := List.all_eq_true.mp hall c hc
    simp [h] at this
  simp [isUnmarked, isUriChar_of_isAlphanum h, hmarks]

/-! ## The scan -/

section scan

variable {s : AuthorityScan}

theorem scanAuthority_unmarked {c : Char} (hc : isUnmarked c = true) (rest : List Char) :
    scanAuthority s (c :: rest) = scanAuthority { s with endsInAt := false } rest := by
  have hne : ∀ d, isUnmarked d = false → c ≠ d :=
    fun d hd => ne_of_apply_ne isUnmarked (by rw [hc, hd]; decide)
  have huri : isUriChar c = true := (Bool.and_eq_true _ _ ▸ hc).1
  rw [scanAuthority]
  simp [hne '/' (by decide), hne '?' (by decide), hne '#' (by decide), hne ':' (by decide),
    hne '[' (by decide), hne ']' (by decide), hne '@' (by decide), hne '%' (by decide), huri]

theorem count_colon_of_unmarked {cs : List Char} (hcs : ∀ c ∈ cs, isUnmarked c = true) :
    cs.count ':' = 0 := by
  refine List.count_eq_zero_of_not_mem fun hcolon => ?_
  cases hcs ':' hcolon

/-- A text with no marks but colons is passed over, as long as the colons are not too many. -/
theorem scanAuthority_append {cs : List Char} (hcs : ∀ c ∈ cs, isUnmarked c = true ∨ c = ':')
    (hat : s.endsInAt = false) (hcolons : s.colons + cs.count ':' ≤ maxColons)
    (rest : List Char) :
    scanAuthority s (cs ++ rest) =
      scanAuthority { s with colons := s.colons + cs.count ':' } rest := by
  induction cs generalizing s with
  | nil => rfl
  | cons c cs ih =>
    have hrest : ∀ c ∈ cs, isUnmarked c = true ∨ c = ':' :=
      fun d hd => hcs d (List.mem_cons_of_mem c hd)
    rcases hcs c List.mem_cons_self with hc | rfl
    · have hne : c ≠ ':' := by
        rintro rfl
        cases hc
      rw [List.count_cons_of_ne hne] at hcolons ⊢
      have hnext := ih (s := { s with endsInAt := false }) hrest rfl hcolons
      rw [List.cons_append, scanAuthority_unmarked hc, hnext, hat]
    · rw [List.count_cons_self] at hcolons ⊢
      have hroom : ¬ maxColons ≤ s.colons := by omega
      have hnext := ih (s := { s with colons := s.colons + 1, endsInAt := false }) hrest rfl
        (by simp only; omega)
      rw [List.cons_append, scanAuthority, if_neg (by decide), if_pos rfl, if_neg hroom, hnext,
        hat, Nat.add_assoc, Nat.add_comm 1]

/-- The scan ends where an authority ends. -/
theorem scanAuthority_dropWhile (cs : List Char) :
    scanAuthority s (cs.dropWhile inAuthority) = .ok (s, cs.dropWhile inAuthority) := by
  have hhead := List.head?_dropWhile_not inAuthority cs
  cases hrest : cs.dropWhile inAuthority with
  | nil => rfl
  | cons c rest =>
    rw [hrest] at hhead
    have hend : (c = '/' || c = '?' || c = '#') = true := by
      rw [← Bool.not_eq_false']
      exact hhead
    rw [scanAuthority, if_pos hend]

/-- No authority holds a character that no URI may hold. -/
theorem scanAuthority_illegible {front : List Char} {c : Char}
    (hfront : ∀ d ∈ front, isUnmarked d = true) (hc : isUriChar c = false) (hpercent : c ≠ '%')
    (rest : List Char) : scanAuthority s (front ++ c :: rest) = .error .character := by
  induction front generalizing s with
  | nil =>
    have hne : ∀ d, isUriChar d = true → c ≠ d :=
      fun d hd => ne_of_apply_ne isUriChar (by rw [hc, hd]; decide)
    rw [List.nil_append, scanAuthority]
    simp [hne '/' (by decide), hne '?' (by decide), hne '#' (by decide), hne ':' (by decide),
      hne '[' (by decide), hne ']' (by decide), hne '@' (by decide), hpercent, hc]
  | cons d front ih =>
    rw [List.cons_append, scanAuthority_unmarked (hfront d List.mem_cons_self)]
    exact ih fun d' hd' => hfront d' (List.mem_cons_of_mem d hd')

end scan

/-! ## The split -/

theorem splitAuthority_of_scan {s : AuthorityScan} {a rest : List Char}
    (hscan : scanAuthority {} (a ++ rest) = .ok (s, rest)) (hbrackets : s.opened = s.closed)
    (hcolons : s.colons ≤ 1) (hat : s.endsInAt = false) (hpercent : s.percent = false) :
    splitAuthority (a ++ rest) = .ok (a, rest) := by
  simp [splitAuthority, hscan, hbrackets, hcolons, hat, hpercent]

variable {host port : List Char}

/-- A host and a port are split off together. -/
theorem splitAuthority_port (hhost : ∀ c ∈ host, isUnmarked c = true)
    (hport : ∀ c ∈ port, isUnmarked c = true) (cs : List Char) :
    splitAuthority (host ++ ':' :: port ++ cs.dropWhile inAuthority) =
      .ok (host ++ ':' :: port, cs.dropWhile inAuthority) := by
  have hone : (host ++ ':' :: port).count ':' = 1 := by
    rw [List.count_append, List.count_cons_self, count_colon_of_unmarked hhost,
      count_colon_of_unmarked hport]
  have hchars : ∀ c ∈ host ++ ':' :: port, isUnmarked c = true ∨ c = ':' := by
    intro c hc
    rcases List.mem_append.mp hc with hc | hc
    · exact .inl (hhost c hc)
    · rcases List.mem_cons.mp hc with hcolon | hc
      · exact .inr hcolon
      · exact .inl (hport c hc)
  have hscan := scanAuthority_append (s := {}) hchars rfl (by rw [hone]; decide)
    (cs.dropWhile inAuthority)
  rw [scanAuthority_dropWhile] at hscan
  exact splitAuthority_of_scan hscan rfl (by rw [hone]) rfl rfl

/-- The colons of a host in brackets count only up to the bracket that closes it. -/
theorem splitAuthority_brackets (hhost : ∀ c ∈ host, isUnmarked c = true ∨ c = ':')
    (hcolons : host.count ':' ≤ maxColons) (hport : ∀ c ∈ port, isUnmarked c = true)
    (cs : List Char) :
    splitAuthority ('[' :: host ++ ']' :: ':' :: port ++ cs.dropWhile inAuthority) =
      .ok ('[' :: host ++ ']' :: ':' :: port, cs.dropWhile inAuthority) := by
  have hscan : scanAuthority {}
      ('[' :: host ++ ']' :: ':' :: port ++ cs.dropWhile inAuthority) =
      .ok ({ opened := true, closed := true, colons := 1 }, cs.dropWhile inAuthority) := by
    calc scanAuthority {} ('[' :: host ++ ']' :: ':' :: port ++ cs.dropWhile inAuthority)
        = scanAuthority { opened := true }
            (host ++ ']' :: ':' :: (port ++ cs.dropWhile inAuthority)) := by
          rw [List.cons_append, List.cons_append, List.append_assoc]
          rfl
      _ = scanAuthority { opened := true, closed := true, colons := 1 }
            (port ++ cs.dropWhile inAuthority) := by
          rw [scanAuthority_append hhost rfl (by simpa using hcolons)]
          rfl
      _ = scanAuthority { opened := true, closed := true, colons := 1 }
            (cs.dropWhile inAuthority) := by
          have hnone := count_colon_of_unmarked hport
          rw [scanAuthority_append (fun c hc => .inl (hport c hc)) rfl (by rw [hnone]; decide),
            hnone]
      _ = .ok ({ opened := true, closed := true, colons := 1 }, cs.dropWhile inAuthority) :=
          scanAuthority_dropWhile cs
  exact splitAuthority_of_scan hscan rfl le_rfl rfl rfl

/-- Nothing is split off a text in which no authority ends before an illegible character. -/
theorem splitAuthority_illegible {front : List Char} {c : Char}
    (hfront : ∀ d ∈ front, isUnmarked d = true) (hc : isUriChar c = false) (hpercent : c ≠ '%')
    (rest : List Char) : splitAuthority (front ++ c :: rest) = .error .character := by
  rw [splitAuthority, scanAuthority_illegible hfront hc hpercent]

end Gateway.Uri
