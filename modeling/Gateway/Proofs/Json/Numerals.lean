import Gateway.Json.Reader
import Gateway.Json.Writer
import Mathlib

/-!
# Numbers in documents

A number in a document ends where a comma, a bracket or a brace follows, so it reads as it
does by itself. An integer of 64 bits, signed or unsigned, reads as itself.
-/

namespace Gateway.Json

/-- What may follow a number in a document: nothing, or a character that goes on with none. -/
def Ends (rest : List Char) : Prop :=
  ∀ c, rest.head? = some c → c.isDigit = false ∧ c ≠ '.' ∧ c ≠ 'e' ∧ c ≠ 'E'

theorem ends_nil : Ends [] := by
  rintro c ⟨⟩

theorem ends_cons {c : Char} (h : c = ',' ∨ c = ']' ∨ c = '\x7d') (rest : List Char) :
    Ends (c :: rest) := by
  rintro d ⟨⟩
  rcases h with rfl | rfl | rfl <;> decide

theorem Ends.takeWhile_append {rest : List Char} (h : Ends rest) (cs : List Char) :
    (cs ++ rest).takeWhile Char.isDigit = cs.takeWhile Char.isDigit := by
  induction cs with
  | nil =>
    cases rest with
    | nil => rfl
    | cons c rest => exact List.takeWhile_cons_of_neg (by simp [(h c rfl).1])
  | cons c cs ih =>
    rw [List.cons_append, List.takeWhile_cons, List.takeWhile_cons, ih]

theorem Ends.dropWhile_append {rest : List Char} (h : Ends rest) (cs : List Char) :
    (cs ++ rest).dropWhile Char.isDigit = cs.dropWhile Char.isDigit ++ rest := by
  induction cs with
  | nil =>
    cases rest with
    | nil => rfl
    | cons c rest => exact List.dropWhile_cons_of_neg (by simp [(h c rfl).1])
  | cons c cs ih =>
    rw [List.cons_append, List.dropWhile_cons, List.dropWhile_cons, ih]
    split
    · rfl
    · rfl

/-! ## The parts of a number -/

/-- The sign of a number or an exponent, and what follows it. -/
def sign : List Char → Bool × List Char
  | '-' :: r => (true, r)
  | r => (false, r)

/-- The fraction, if there is a point, and what follows it. -/
def fraction? : List Char → Option (Option (List Char) × List Char)
  | '.' :: r =>
      let ds := r.takeWhile Char.isDigit
      if ds.isEmpty then none else some (some ds, r.dropWhile Char.isDigit)
  | r => some (none, r)

/-- The sign of an exponent and what follows it. -/
def exponentSign : List Char → Bool × List Char
  | '+' :: r => (false, r)
  | '-' :: r => (true, r)
  | r => (false, r)

/-- A number whose exponent, if there is one, is still to be read. -/
def exponent? (negative : Bool) (whole : List Char) (fraction : Option (List Char)) :
    List Char → Option (Numeral × List Char)
  | 'e' :: r | 'E' :: r =>
      let (minus, r) := exponentSign r
      let ds := r.takeWhile Char.isDigit
      if ds.isEmpty then none
      else some (⟨negative, whole, fraction, some (minus, ds)⟩, r.dropWhile Char.isDigit)
  | r => some (⟨negative, whole, fraction, none⟩, r)

/-- A number behind its sign. -/
def unsigned? (negative : Bool) (cs : List Char) : Option (Numeral × List Char) :=
  let whole := cs.takeWhile Char.isDigit
  if whole.isEmpty || (whole.head? = some '0' && whole.length ≠ 1) then none
  else
    match fraction? (cs.dropWhile Char.isDigit) with
    | none => none
    | some (fraction, rest) => exponent? negative whole fraction rest

theorem numeral?_eq (cs : List Char) : numeral? cs = unsigned? (sign cs).1 (sign cs).2 := rfl

theorem sign_of_ne {cs : List Char} (h : cs.head? ≠ some '-') : sign cs = (false, cs) := by
  unfold sign
  split
  · exact absurd rfl h
  · rfl

theorem fraction?_of_ne {cs : List Char} (h : cs.head? ≠ some '.') :
    fraction? cs = some (none, cs) := by
  unfold fraction?
  split
  · exact absurd rfl h
  · rfl

theorem exponentSign_of_ne {cs : List Char} (hplus : cs.head? ≠ some '+')
    (hminus : cs.head? ≠ some '-') : exponentSign cs = (false, cs) := by
  unfold exponentSign
  split
  · exact absurd rfl hplus
  · exact absurd rfl hminus
  · rfl

theorem exponent?_of_ne {negative : Bool} {whole : List Char} {fraction : Option (List Char)}
    {cs : List Char} (he : cs.head? ≠ some 'e') (hE : cs.head? ≠ some 'E') :
    exponent? negative whole fraction cs = some (⟨negative, whole, fraction, none⟩, cs) := by
  unfold exponent?
  split
  · exact absurd rfl he
  · exact absurd rfl hE
  · rfl

/-! ## What follows a number -/

section
variable {rest : List Char}

theorem sign_append {cs : List Char} (hne : cs ≠ []) :
    sign (cs ++ rest) = ((sign cs).1, (sign cs).2 ++ rest) := by
  cases cs with
  | nil => exact absurd rfl hne
  | cons c cs =>
    by_cases hminus : c = '-'
    · subst hminus
      rfl
    · have hother : ∀ l, sign (c :: l) = (false, c :: l) := fun l =>
        sign_of_ne (by simpa using hminus)
      rw [List.cons_append, hother, hother, List.cons_append]

theorem exponentSign_append {cs : List Char} (hne : cs ≠ []) :
    exponentSign (cs ++ rest) = ((exponentSign cs).1, (exponentSign cs).2 ++ rest) := by
  cases cs with
  | nil => exact absurd rfl hne
  | cons c cs =>
    by_cases hplus : c = '+'
    · subst hplus
      rfl
    · by_cases hminus : c = '-'
      · subst hminus
        rfl
      · have hother : ∀ l, exponentSign (c :: l) = (false, c :: l) := fun l =>
          exponentSign_of_ne (by simpa using hplus) (by simpa using hminus)
        rw [List.cons_append, hother, hother, List.cons_append]

theorem Ends.fraction?_append (h : Ends rest) {cs r : List Char} {f : Option (List Char)}
    (hcs : fraction? cs = some (f, r)) : fraction? (cs ++ rest) = some (f, r ++ rest) := by
  cases cs with
  | nil =>
    cases hcs
    exact fraction?_of_ne fun hdot => (h _ hdot).2.1 rfl
  | cons c cs =>
    by_cases hdot : c = '.'
    · subst hdot
      simp only [fraction?, List.cons_append, h.takeWhile_append, h.dropWhile_append] at hcs ⊢
      split at hcs
      · cases hcs
      · rename_i hdigits
        cases hcs
        rw [if_neg hdigits]
    · rw [fraction?_of_ne (by simpa using hdot)] at hcs
      cases hcs
      exact fraction?_of_ne (by simpa using hdot)

/-- The digits of an exponent end where the number ends. -/
theorem Ends.exponent?_append (h : Ends rest) {negative : Bool} {whole cs r : List Char}
    {f : Option (List Char)} {n : Numeral} (hcs : exponent? negative whole f cs = some (n, r)) :
    exponent? negative whole f (cs ++ rest) = some (n, r ++ rest) := by
  cases cs with
  | nil =>
    cases hcs
    exact exponent?_of_ne (fun he => (h _ he).2.2.1 rfl) fun hE => (h _ hE).2.2.2 rfl
  | cons c cs =>
    have hmark : c = 'e' ∨ c = 'E' →
        exponent? negative whole f (c :: cs ++ rest) = some (n, r ++ rest) := by
      intro hmark
      have hne : cs ≠ [] := by
        rintro rfl
        rcases hmark with rfl | rfl <;> cases hcs
      rcases hmark with rfl | rfl
      all_goals
        simp only [exponent?, List.cons_append, exponentSign_append hne, h.takeWhile_append,
          h.dropWhile_append] at hcs ⊢
        split at hcs
        · cases hcs
        · rename_i hdigits
          cases hcs
          rw [if_neg hdigits]
    by_cases he : c = 'e'
    · exact hmark (.inl he)
    · by_cases hE : c = 'E'
      · exact hmark (.inr hE)
      · rw [exponent?_of_ne (by simpa using he) (by simpa using hE)] at hcs
        cases hcs
        exact exponent?_of_ne (by simpa using he) (by simpa using hE)

/-- A number reads the same before anything that ends it. -/
theorem Ends.numeral?_append (h : Ends rest) {cs r : List Char} {n : Numeral}
    (hcs : numeral? cs = some (n, r)) : numeral? (cs ++ rest) = some (n, r ++ rest) := by
  have hne : cs ≠ [] := by
    rintro rfl
    cases hcs
  rw [numeral?_eq] at hcs ⊢
  rw [sign_append hne]
  simp only [unsigned?, h.takeWhile_append, h.dropWhile_append] at hcs ⊢
  split at hcs
  · cases hcs
  · rename_i hwhole
    rw [if_neg hwhole]
    split at hcs
    · cases hcs
    · rename_i f behind hfraction
      rw [h.fraction?_append hfraction]
      exact h.exponent?_append hcs

end

/-! ## Numbers that are written -/

/-- A number begins with a sign or a digit. -/
theorem head_of_numeral? {cs : List Char} {r : Numeral × List Char} (h : numeral? cs = some r) :
    ∃ c tail, cs = c :: tail ∧ (c = '-' ∨ c.isDigit = true) := by
  cases cs with
  | nil => cases h
  | cons c cs =>
    refine ⟨c, cs, rfl, ?_⟩
    by_contra hnot
    obtain ⟨hminus, hdigit⟩ := not_or.mp hnot
    rw [numeral?_eq, sign_of_ne (by simpa using hminus)] at h
    simp [unsigned?, hdigit] at h

theorem toList_toString (n : ℤ) :
    (toString n).toList = (if n < 0 then ['-'] else []) ++ Nat.toDigits 10 n.natAbs := by
  show n.repr.toList = _
  cases n with
  | ofNat m =>
    show (Nat.repr m).toList = _
    rw [Nat.repr_eq_ofList_toDigits, String.toList_ofList,
      if_neg (show ¬ Int.ofNat m < 0 from not_lt.mpr (Int.natCast_nonneg m))]
    rfl
  | negSucc m =>
    show ("-" ++ Nat.repr (m + 1)).toList = _
    rw [String.toList_append, Nat.repr_eq_ofList_toDigits, String.toList_ofList,
      String.toList_ofList, if_pos (Int.negSucc_lt_zero m)]
    rfl

theorem digitsToNat_toDigits (n : ℕ) : digitsToNat (Nat.toDigits 10 n) = n := by
  have h := Nat.ofDigitChars_ten_toDigits (n := n)
  rw [Nat.ofDigitChars_eq_foldl] at h
  simpa only [digitsToNat, Nat.mul_comm] using h

theorem head?_toDigits {n : ℕ} (hn : 0 < n) : (Nat.toDigits 10 n).head? ≠ some '0' := by
  induction n using Nat.strong_induction_on with
  | _ n ih =>
    have hdigit : ∀ d < 10, 0 < d → Nat.digitChar d ≠ '0' := by decide
    rw [Nat.toDigits_eq_if (by decide)]
    split
    · rename_i hlt
      exact fun hzero => hdigit n hlt hn (Option.some.inj hzero)
    · have hhead := ih (n / 10) (by omega) (by omega)
      rw [List.head?_append_of_ne_nil _ Nat.toDigits_ne_nil]
      exact hhead

/-- The digits of a number have no leading zero. -/
theorem unsigned?_toDigits (negative : Bool) (n : ℕ) :
    unsigned? negative (Nat.toDigits 10 n) =
      some (⟨negative, Nat.toDigits 10 n, none, none⟩, []) := by
  have hdigits : ∀ c ∈ Nat.toDigits 10 n, c.isDigit = true :=
    fun c hc => Nat.isDigit_of_mem_toDigits (by decide) (by decide) hc
  have hwhole : (Nat.toDigits 10 n).takeWhile Char.isDigit = Nat.toDigits 10 n :=
    List.takeWhile_eq_self_iff.mpr hdigits
  have hrest : (Nat.toDigits 10 n).dropWhile Char.isDigit = [] :=
    List.dropWhile_eq_nil_iff.mpr hdigits
  have hzero : (Nat.toDigits 10 n).head? = some '0' → (Nat.toDigits 10 n).length = 1 := by
    intro hhead
    rcases Nat.eq_zero_or_pos n with rfl | hpos
    · rfl
    · exact absurd hhead (head?_toDigits hpos)
  unfold unsigned?
  simp only [hwhole, hrest]
  rw [if_neg]
  · rfl
  · simp only [Bool.or_eq_true, Bool.and_eq_true, decide_eq_true_eq, List.isEmpty_iff]
    rintro (hnil | ⟨hhead, hlength⟩)
    · exact Nat.toDigits_ne_nil hnil
    · exact hlength (hzero hhead)

theorem numeral?_toString (n : ℤ) :
    numeral? (toString n).toList =
      some (⟨n < 0, Nat.toDigits 10 n.natAbs, none, none⟩, []) := by
  rw [toList_toString, numeral?_eq]
  split
  · rename_i hneg
    rw [decide_eq_true hneg]
    exact unsigned?_toDigits true _
  · rename_i hpos
    have hhead : (Nat.toDigits 10 n.natAbs).head? ≠ some '-' := by
      intro hminus
      have hdigit := Nat.isDigit_of_mem_toDigits (by decide) (by decide)
        (List.mem_of_mem_head? hminus)
      cases hdigit
    rw [decide_eq_false hpos, List.nil_append, sign_of_ne hhead]
    exact unsigned?_toDigits false _

/-- An integer of 64 bits, signed or unsigned. -/
def Fits (n : ℤ) : Prop := -2 ^ 63 ≤ n ∧ n < 2 ^ 64

theorem value?_toString {n : ℤ} (hn : Fits n) :
    (⟨n < 0, Nat.toDigits 10 n.natAbs, none, none⟩ : Numeral).value? = some (.int n) := by
  obtain ⟨hlow, hhigh⟩ := hn
  have hword : word = 2 ^ 64 := rfl
  have hint : (⟨n < 0, Nat.toDigits 10 n.natAbs, none, none⟩ : Numeral).toInt? = some n := by
    unfold Numeral.toInt?
    simp only [digitsToNat_toDigits, Option.isSome_none, Bool.or_self, Bool.false_eq_true,
      if_false, decide_eq_true_eq, hword]
    split
    · rename_i hneg
      have hfits : ¬ (n.natAbs = 0 ∨ 2 ^ 63 < n.natAbs) := by omega
      rw [if_neg (by simpa using hfits)]
      congr 1
      omega
    · rw [if_pos (by omega)]
      congr 1
      omega
  unfold Numeral.value?
  rw [hint]

/-- A floating point number whose digits read as the number. -/
def Exact (x : Float) : Prop :=
  ∃ n, numeral? (writeReal x).toList = some (n, []) ∧ n.value? = some (.real x)

end Gateway.Json
