import Gateway.Config.Validate
import Gateway.Proofs.Failover.Schedule
import Gateway.Proofs.Location.Retry

/-!
# Rests that overflow

A rest leads beyond 64 bits only by its jitter. A request that should rest so long breaks
off, though it was to be tried again. Whether the numbers drawn can bring that about is
told by the last rest within the budget, which is the longest. No settings are refused for
the rests they ask for.
-/

namespace Gateway

namespace FailoverPolicy

/-- None of the rests between so many attempts is too long for its jitter. -/
def Moderate (p : FailoverPolicy) (budget : ℕ) : Prop :=
  p.backoffBase = 0 ∨ budget ≤ 1 ∨ p.capped (budget - 1) < tooLong

variable {p : FailoverPolicy} {budget no : ℕ}

theorem capped_mono (p : FailoverPolicy) : Monotone p.capped := by
  intro no no' hle
  rw [capped_eq_min, capped_eq_min]
  exact min_le_min_right _ (scheduled_mono p hle)

/-- A rest can be told with each of its jitters, or not with the longest one. -/
theorem never_overflow_iff (p : FailoverPolicy) (hno : 0 < no) :
    (∀ x, IsDraw x → p.backoff x no ≠ .overflow) ↔
      p.backoffBase = 0 ∨ p.capped no < tooLong := by
  have hroom := add_longest_le_iff (capped_le_maxMillis p no)
  constructor
  · intro hall
    by_contra hnot
    obtain ⟨hbase, hlong⟩ := not_or.mp hnot
    rw [← hroom, not_le] at hlong
    exact hall longestDraw isDraw_longestDraw ((p.overflows_iff _ hno.ne').mpr ⟨hbase, hlong⟩)
  · intro hshort x hx hoverflow
    obtain ⟨hbase, hlong⟩ := (p.overflows_iff x hno.ne').mp hoverflow
    have hle := hroom.mpr (hshort.resolve_left hbase)
    have hjitter := jitter_le_longest hx (capped_le_maxMillis p no)
    omega

/-- The last rest within the budget decides on all of them. -/
theorem moderate_iff (p : FailoverPolicy) (budget : ℕ) :
    p.Moderate budget ↔
      ∀ no x, 0 < no → no < budget → IsDraw x → p.backoff x no ≠ .overflow := by
  constructor
  · intro hp no x hno hlt
    refine (never_overflow_iff p hno).mpr ?_ x
    rcases hp with hbase | hone | hshort
    · exact Or.inl hbase
    · omega
    · exact Or.inr ((capped_mono p (Nat.le_pred_of_lt hlt)).trans_lt hshort)
  · intro hall
    by_cases hone : budget ≤ 1
    · exact Or.inr (Or.inl hone)
    · have hlast : 0 < budget - 1 := by omega
      have hshort := (never_overflow_iff p hlast).mp fun x hx =>
        hall (budget - 1) x hlast (by omega) hx
      exact hshort.imp_right Or.inr

theorem capped_le_limit (p : FailoverPolicy) (no : ℕ) : p.capped no ≤ p.limit :=
  min_le_right _ _

/-- A limit beyond what has room for a jitter is reached some time. -/
theorem tooLong_le_capped (hbase : p.backoffBase ≠ 0) (hlimit : tooLong ≤ p.limit) :
    tooLong ≤ p.capped 65 := by
  have hpower : tooLong ≤ p.backoffBase * 2 ^ 64 :=
    le_trans (by decide) (Nat.le_mul_of_pos_left _ (Nat.pos_of_ne_zero hbase))
  rw [capped_eq_min]
  exact le_min (le_min hpower hlimit) (by decide)

theorem always_moderate_iff (p : FailoverPolicy) :
    (∀ budget, p.Moderate budget) ↔ p.backoffBase = 0 ∨ p.limit < tooLong := by
  constructor
  · intro hall
    by_contra hnot
    obtain ⟨hbase, hlimit⟩ := not_or.mp hnot
    have hlong := tooLong_le_capped hbase (not_lt.mp hlimit)
    rcases hall 66 with hzero | hone | hshort
    · exact hbase hzero
    · omega
    · exact absurd hshort (not_lt.mpr hlong)
  · rintro (hbase | hlimit) budget
    · exact Or.inl hbase
    · exact Or.inr (Or.inr ((capped_le_limit p _).trans_lt hlimit))

end FailoverPolicy

open FailoverPolicy

/-- An attempt that is worth another one, and the longest jitter behind it. -/
structure Leg.Unlucky (leg : Leg) (p : FailoverPolicy) (m : Method) : Prop where
  passed : leg.attempt.intercepted = false
  failed : p.WorthAnother m leg.attempt.outcome
  longest : leg.draw = longestDraw

/-- Which rests can be told, and what becomes of a request where one cannot. -/
structure Journey.Rested {β μ ο σ : Type} [Balancer β] (j : Journey β μ ο σ)
    (p : FailoverPolicy) (r : Request) (budget : ℕ) : Prop where
  never_iff : ∀ no, 0 < no → ((∀ x, IsDraw x → p.backoff x no ≠ .overflow) ↔
    p.backoffBase = 0 ∨ p.capped no < tooLong)
  moderate_iff : p.Moderate budget ↔
    ∀ no x, 0 < no → no < budget → IsDraw x → p.backoff x no ≠ .overflow
  /-- Settings whose rests can be told for every budget. -/
  always_iff : (∀ budget, p.Moderate budget) ↔
    p.backoffBase = 0 ∨ max p.backoffMax p.backoffBase < tooLong
  /-- Where all rests can be told, every attempt that is wanted is begun. -/
  unbroken : p.Moderate budget → (∀ leg ∈ j.legs, IsDraw leg.draw) → j.ending ≠ .broken ∧
    ∀ i leg, j.legs[i]? = some leg →
      (i + 1 < j.rounds ↔ p.Wanted r.method budget (i + 1) leg.attempt)
  /-- Where they cannot, a request that always fails breaks off. -/
  breaks_iff : (∀ leg ∈ j.legs, leg.Unlucky p r.method) → (∀ err, j.ending ≠ .unplaced err) →
    (j.ending = .broken ↔ ¬ p.Moderate budget)

section

variable {β μ ο σ : Type} [Balancer β] {j : Journey β μ ο σ} {p : FailoverPolicy} {r : Request}
  {budget : ℕ}

theorem Journey.Regular.unbroken (hj : j.Regular p { request := r, budget })
    (hp : p.Moderate budget) (hdraws : ∀ leg ∈ j.legs, IsDraw leg.draw) : j.ending ≠ .broken := by
  intro hbroken
  obtain ⟨leg, hlast, hwanted, hoverflows⟩ := hj.broken_iff.mp hbroken
  simp only [Nat.zero_add] at hwanted hoverflows
  have hmem := List.mem_of_getLast? hlast
  have hpos := List.length_pos_of_mem hmem
  have htold := (moderate_iff p budget).mp hp _ leg.draw hpos hwanted.within (hdraws leg hmem)
  exact htold ((p.overflows_iff _ hpos.ne').mpr hoverflows)

/-- A request that always fails uses up its budget, unless it breaks off. -/
theorem Journey.Regular.rounds_eq (hj : j.Regular p { request := r, budget })
    (hlegs : ∀ leg ∈ j.legs, leg.Unlucky p r.method) (hplaced : ∀ err, j.ending ≠ .unplaced err)
    (hbroken : j.ending ≠ .broken) : j.rounds = j.legs.length ∧ j.rounds = budget := by
  have hbegun := hj.begun
  have hwithin : 0 + j.rounds ≤ budget := hj.within
  cases hending : j.ending with
  | broken => exact absurd hending hbroken
  | unplaced err => exact absurd hending (hplaced err)
  | answered o =>
      have hrounds : j.rounds = j.legs.length := by rw [Journey.rounds, hending]
      obtain ⟨leg, hlast, -⟩ := hj.answered o hending
      obtain ⟨i, hlength, hleg⟩ := exists_getElem?_of_getLast? hlast
      have hunlucky := hlegs leg (List.mem_of_getLast? hlast)
      refine ⟨hrounds, le_antisymm (by omega) (not_lt.mp fun hlt => ?_)⟩
      -- Another attempt would be wanted behind the last one.
      have hmore := (hj.follows_exactly_iff.mpr hbroken i leg hleg).mpr
        ⟨by show 0 + i + 1 < budget; omega, hunlucky.passed, hunlucky.failed⟩
      omega

theorem Journey.Regular.broken (hj : j.Regular p { request := r, budget })
    (hp : ¬ p.Moderate budget) (hlegs : ∀ leg ∈ j.legs, leg.Unlucky p r.method)
    (hplaced : ∀ err, j.ending ≠ .unplaced err) : j.ending = .broken := by
  by_contra hbroken
  obtain ⟨hlength, hbudget⟩ := hj.rounds_eq hlegs hplaced hbroken
  obtain ⟨hbase, hrests⟩ := not_or.mp hp
  obtain ⟨hone, hlong⟩ := not_or.mp hrests
  -- The last attempt would follow behind a rest that overflows.
  obtain ⟨i, hi⟩ : ∃ i, budget = i + 2 := ⟨budget - 2, by omega⟩
  have hleg := List.getElem?_eq_getElem (show i < j.legs.length by omega)
  have htold := ((hj.follows_iff i _ hleg).mp (by omega)).2
  have hunlucky := hlegs _ (List.getElem_mem (show i < j.legs.length by omega))
  rw [hi, ← add_longest_le_iff (capped_le_maxMillis p _), not_le] at hlong
  refine htold ⟨hbase, ?_⟩
  rw [hunlucky.longest, Nat.zero_add]
  exact hlong

theorem Journey.Regular.rested (hj : j.Regular p { request := r, budget }) :
    j.Rested p r budget where
  never_iff := by
    intro no hno
    exact never_overflow_iff p hno
  moderate_iff := FailoverPolicy.moderate_iff p budget
  always_iff := always_moderate_iff p
  unbroken := by
    intro hp hdraws
    have hunbroken := hj.unbroken hp hdraws
    have hfollows := hj.follows_exactly_iff.mpr hunbroken
    simp only [Nat.zero_add] at hfollows
    exact ⟨hunbroken, hfollows⟩
  breaks_iff := by
    intro hlegs hplaced
    refine ⟨fun hbroken hp => ?_, fun hp => hj.broken hp hlegs hplaced⟩
    refine hj.unbroken hp (fun leg hleg => ?_) hbroken
    rw [(hlegs leg hleg).longest]
    exact isDraw_longestDraw

/-- Every attempt that is wanted follows, unless a rest within the budget has no room for
its jitter. -/
theorem roundTrip_rested {h : Handlers β μ ο σ} (hh : h.Lawful) (l : Location)
    (e : Surroundings β μ ο σ) (r : Request) (s : Site β μ ο σ) :
    (roundTrip h l e r s).Rested l.failover r
      (l.failover.budget (Balancer.members s.pool).length) := by
  have hregular := travel_regular hh l e (l.failover.budget_pos _) s (v := Visit.first l r s)
  exact hregular.rested

end

/-- The longest rest that is never too long. -/
theorem roundTrip_rested_twins : (Handlers.none (β := Offering) (σ := Unit)).Lawful ∧
    (Twins.journey { backoffBase := tooLong - 1 }).Rested { backoffBase := tooLong - 1 }
      Twins.request 2 ∧
    (Twins.journey { backoffBase := tooLong - 1 }).rounds = 2 := by
  refine ⟨Handlers.none_lawful, ?_, by decide +kernel⟩
  exact roundTrip_rested Handlers.none_lawful (Twins.location { backoffBase := tooLong - 1 })
    (.quiet Twins.outcome) Twins.request Twins.site

/-- With a millisecond more, there is no room for the longest jitter. -/
example : (roundTrip Handlers.none (Twins.location { backoffBase := tooLong })
    (.quiet Twins.outcome) Twins.request
    { Twins.site with draws := ⟨[longestDraw]⟩ }).ending.isBroken = true := by
  decide +kernel

def Twins.asked (p : FailoverPolicy) : LocationSettings where
  name := "api"
  endpoints := ["http://a:80", "http://b:80"]
  failover := p

/-- Settings without a fault, and still the rest after the first attempt overflows with half
of its jitter. -/
theorem accepted_rest_overflows : (Twins.asked Twins.longRests).fault? = none ∧
    1 < Twins.longRests.budget (Twins.asked Twins.longRests).endpoints.length ∧
    IsDraw 0.5 ∧ Twins.longRests.backoff 0.5 1 = .overflow ∧
    (Twins.journey Twins.longRests).ending = .broken := by
  refine ⟨by decide +kernel, by decide, by decide +kernel, by decide +kernel, ?_⟩
  rw [← Ending.isBroken_iff]
  decide +kernel

end Gateway
