/-!
# Attempt counts

How many attempts are in flight at an endpoint, and how many have ended and failed. An
attempt that is given up only leaves the ones in flight.
-/

namespace Gateway

structure Tally where
  active : Nat := 0
  total : Nat := 0
  failed : Nat := 0
  deriving DecidableEq, Repr

namespace Tally

def zero : Tally := {}

def start (t : Tally) : Tally :=
  { t with active := t.active + 1 }

def release (t : Tally) : Tally :=
  { t with active := t.active - 1 }

def finish (success : Bool) (t : Tally) : Tally :=
  { active := t.active - 1
    total := t.total + 1
    failed := if success then t.failed else t.failed + 1 }

end Tally

/-- The counts of all endpoints that have ever been in a pool, by their serial numbers. -/
structure Ledger where
  tallies : List Tally := []
  deriving DecidableEq, Repr

namespace Ledger

def empty : Ledger := {}

/-- The serial number of the next endpoint. -/
def next (l : Ledger) : Nat := l.tallies.length

def enrol (l : Ledger) : Ledger := ⟨l.tallies ++ [Tally.zero]⟩

def get (l : Ledger) (serial : Nat) : Tally :=
  l.tallies[serial]?.getD Tally.zero

def modify (l : Ledger) (serial : Nat) (f : Tally → Tally) : Ledger :=
  ⟨l.tallies.modify serial f⟩

theorem get_modify (l : Ledger) (i j : Nat) (f : Tally → Tally) (h : i < l.next) :
    (l.modify i f).get j = if i = j then f (l.get j) else l.get j := by
  unfold get modify next at *
  by_cases e : i = j
  · subst e
    simp [h]
  · simp [e]

end Ledger

end Gateway
