import Gateway.Route
import Mathlib.Data.List.TakeWhile
import Mathlib.Tactic

/-!
# Hosts as they are written

A host may be written with a port behind it, in brackets, and in letters of either case. What
is written names one host, and two ways to write it name the same one exactly if they read
alike once the case is set aside.
-/

namespace Gateway

/-- A part of a text reaches up to the first `mark`, or to the end if there is none. -/
def ReachesUpTo (mark : Char) (part text : List Char) : Prop :=
  mark ∉ part ∧ (text = part ∨ ∃ rest, text = part ++ mark :: rest)

/-- The host that is written in a text. -/
inductive Writes : List Char → List Char → Prop
  /-- An address stands in brackets, whatever there is behind them. -/
  | bracketed {text host} : ReachesUpTo ']' host text → Writes ('[' :: text) host
  /-- Any other host ends at its port. -/
  | plain {text host} : (∀ rest, text ≠ '[' :: rest) → ReachesUpTo ':' host text →
      Writes text host

/-- The same character, but for the case of a letter from A to Z. -/
inductive SameLetter : Char → Char → Prop
  | same {c} : SameLetter c c
  | small {c d} : 'A' ≤ c ∧ c ≤ 'Z' → d.toNat = c.toNat + 32 → SameLetter c d
  | capital {c d} : 'A' ≤ d ∧ d ≤ 'Z' → c.toNat = d.toNat + 32 → SameLetter c d

/-- Two texts write the same host. -/
def SameHost (text text' : String) : Prop :=
  ∃ host host', Writes text.toList host ∧ Writes text'.toList host' ∧
    List.Forall₂ SameLetter host host'

/-! ## The host without its port -/

theorem reachesUpTo_iff {mark : Char} {part text : List Char} :
    ReachesUpTo mark part text ↔ text.takeWhile (· ≠ mark) = part := by
  constructor
  · rintro ⟨hmark, htext⟩
    have hall : ∀ c ∈ part, decide (c ≠ mark) = true := by
      intro c hc
      exact decide_eq_true (ne_of_mem_of_not_mem hc hmark)
    rcases htext with rfl | ⟨rest, rfl⟩
    · exact List.takeWhile_eq_self_iff.mpr hall
    · rw [List.takeWhile_append_of_pos hall, List.takeWhile_cons_of_neg (by simp), List.append_nil]
  · rintro rfl
    refine ⟨fun hmem => ?_, ?_⟩
    · simpa using List.mem_takeWhile_imp hmem
    · have hsplit := List.takeWhile_append_dropWhile (p := (· ≠ mark)) (l := text)
      have hstop := List.head?_dropWhile_not (· ≠ mark) text
      cases hrest : text.dropWhile (· ≠ mark) with
      | nil =>
          rw [hrest, List.append_nil] at hsplit
          exact .inl hsplit.symm
      | cons c rest =>
          rw [hrest] at hsplit hstop
          obtain rfl : c = mark := by simpa using hstop
          exact .inr ⟨rest, hsplit.symm⟩

theorem writes_iff {text host : List Char} : Writes text host ↔ bareHost text = host := by
  constructor
  · intro hwrites
    cases hwrites with
    | bracketed hreaches => exact reachesUpTo_iff.mp hreaches
    | plain hplain hreaches =>
        rw [← reachesUpTo_iff.mp hreaches]
        unfold bareHost
        split
        · exact absurd rfl (hplain _)
        · rfl
  · rintro rfl
    unfold bareHost
    split
    · exact .bracketed (reachesUpTo_iff.mpr rfl)
    · rename_i hplain
      exact .plain hplain (reachesUpTo_iff.mpr rfl)

/-! ## The case of letters -/

theorem capital_iff {c : Char} : 'A' ≤ c ∧ c ≤ 'Z' ↔ 65 ≤ c.toNat ∧ c.toNat ≤ 90 :=
  and_congr UInt32.le_iff_toNat_le UInt32.le_iff_toNat_le

theorem toNat_toLower (c : Char) :
    c.toLower.toNat = if 65 ≤ c.toNat ∧ c.toNat ≤ 90 then c.toNat + 32 else c.toNat := by
  unfold Char.toLower
  split
  · rename_i hc
    have hcapital := capital_iff.mp hc
    rw [if_pos hcapital]
    show (c.val + 32).toNat = c.toNat + 32
    rw [UInt32.toNat_add]
    exact Nat.mod_eq_of_lt (show c.toNat + 32 < 2 ^ 32 by omega)
  · rename_i hc
    rw [if_neg (mt capital_iff.mpr hc)]

theorem sameLetter_iff {c d : Char} : SameLetter c d ↔ c.toLower = d.toLower := by
  rw [← Char.toNat_inj, toNat_toLower, toNat_toLower]
  constructor
  · intro hsame
    cases hsame with
    | same => rfl
    | small hc hd =>
        have hcapital := capital_iff.mp hc
        rw [if_pos hcapital, hd, if_neg (by omega)]
    | capital hd hc =>
        have hcapital := capital_iff.mp hd
        rw [if_pos hcapital, hc, if_neg (by omega)]
  · intro hsame
    by_cases hc : 65 ≤ c.toNat ∧ c.toNat ≤ 90
    · by_cases hd : 65 ≤ d.toNat ∧ d.toNat ≤ 90
      · rw [if_pos hc, if_pos hd, Nat.add_right_cancel_iff] at hsame
        exact Char.toNat_inj.mp hsame ▸ .same
      · rw [if_pos hc, if_neg hd] at hsame
        exact .small (capital_iff.mpr hc) hsame.symm
    · by_cases hd : 65 ≤ d.toNat ∧ d.toNat ≤ 90
      · rw [if_neg hc, if_pos hd] at hsame
        exact .capital (capital_iff.mpr hd) hsame
      · rw [if_neg hc, if_neg hd] at hsame
        exact Char.toNat_inj.mp hsame ▸ .same

theorem forall₂_sameLetter_iff {cs ds : List Char} :
    List.Forall₂ SameLetter cs ds ↔ foldCase cs = foldCase ds := by
  unfold foldCase
  induction cs generalizing ds with
  | nil => cases ds <;> simp
  | cons c cs ih =>
      cases ds with
      | nil => simp
      | cons d ds => simp [ih, sameLetter_iff]

theorem sameHost_iff {text text' : String} :
    SameHost text text' ↔ foldCase (bareHost text.toList) = foldCase (bareHost text'.toList) := by
  unfold SameHost
  simp only [writes_iff, forall₂_sameLetter_iff]
  constructor
  · rintro ⟨host, host', rfl, rfl, hsame⟩
    exact hsame
  · exact fun hsame => ⟨_, _, rfl, rfl, hsame⟩

/-- The address of one server, in two ways to write it. -/
example : SameHost "[2001:DB8::A]:8080" "[2001:db8::a]" := by
  rw [sameHost_iff]
  decide

end Gateway
