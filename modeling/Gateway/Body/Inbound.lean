import Gateway.Text.Utf8

/-!
# Bodies that arrive over time

A client's body is there as a whole, or it comes piece by piece. A sender works ahead of
the reader by one piece: it begins with the next one as soon as a piece is accepted, and
a piece is accepted when the reader has taken the one before. It may declare beforehand
how much it sends, and still break off. A source is asked instead: it begins with a piece
when the reader wants it, and goes on after a fault.
-/

namespace Gateway

/-- Why a body cannot be read on. -/
inductive BodyFault where
  | aborted
  | io (timedOut : Bool) (text : String)
  deriving DecidableEq, Repr

namespace BodyFault

def message : BodyFault → String
  | .aborted => "user body write aborted"
  | .io _ text => "error reading a body from connection: " ++ text

def isTimeout : BodyFault → Bool
  | .aborted => false
  | .io timedOut _ => timedOut

end BodyFault

inductive BodyPiece where
  | data (b : Bytes)
  | fault (f : BodyFault)
  /-- Nothing ever follows. -/
  | stall
  deriving DecidableEq, Repr

/-- A fault after which a source goes on. -/
def BodyPiece.isSourceFault : BodyPiece → Bool
  | .fault (.io ..) => true
  | _ => false

/-- A piece and the time that goes into it, in nanoseconds. -/
structure BodyStep where
  delay : Nat
  piece : BodyPiece
  deriving DecidableEq, Repr

/-- Pieces for which `n` octets are declared: they never hold more, and they do not end
before all of it has come. They may break off or stall at any point. -/
def BodyStep.Honour : Nat → List BodyStep → Prop
  | n, [] => n = 0
  | n, ⟨_, .data b⟩ :: rest => b.length ≤ n ∧ Honour (n - b.length) rest
  | _, ⟨_, .fault _⟩ :: _ => True
  | _, ⟨_, .stall⟩ :: _ => True

theorem BodyStep.honour_tail {declared : Option Nat} {delay : Nat} {b : Bytes}
    {rest : List BodyStep} (h : ∀ n, declared = some n → Honour n (⟨delay, .data b⟩ :: rest))
    (n : Nat) (hn : declared.map (· - b.length) = some n) : Honour n rest := by
  obtain ⟨m, hm, rfl⟩ := Option.map_eq_some_iff.mp hn
  exact (h m hm).2

inductive Delivery where
  /-- All there is, of known length. -/
  | whole (b : Bytes)
  /-- Pieces of a sender: when the last one was accepted, when it was taken, and how many
  octets are declared for what is left, if the sender has said so. -/
  | sent (steps : List BodyStep) (accepted taken : Nat) (declared : Option Nat)
      (honoured : ∀ n, declared = some n → BodyStep.Honour n steps)
  /-- Pieces of a source, which declares nothing: since when the next one has been asked
  for. -/
  | asked (steps : List BodyStep) (since : Option Nat)
  deriving DecidableEq, Repr

namespace Delivery

def empty : Delivery := .whole []

/-- Pieces that are sent from `now` on and for which nothing is declared; if a fault of the
source is among them, they are asked for instead. -/
def ofSteps (now : Nat) (steps : List BodyStep) : Delivery :=
  if steps.any fun s => s.piece.isSourceFault then .asked steps none
  else .sent steps now now none nofun

/-- The length, if it is known beforehand. -/
def declared? : Delivery → Option Nat
  | .whole b => some b.length
  | .sent _ _ _ declared _ => declared
  | .asked _ _ => none

/-- How many pieces are left at most. -/
def size : Delivery → Nat
  | .whole b => if b.isEmpty then 0 else 1
  | .sent steps _ _ _ _ => steps.length
  | .asked steps _ => steps.length

/-- What a reader gets. -/
inductive Arrival where
  | chunk (b : Bytes)
  | fault (f : BodyFault)
  | finished
  deriving DecidableEq, Repr

/-- What comes next for a reader that waits from `now` on, when, and what is left then.
A stalled body brings nothing. -/
def next? (now : Nat) : Delivery → Option (Nat × Arrival × Delivery)
  | .whole b => some (now, if b.isEmpty then .finished else .chunk b, empty)
  | .sent [] accepted _ declared honoured =>
      some (max now accepted, .finished, .sent [] accepted now declared honoured)
  | .sent (⟨delay, piece⟩ :: rest) accepted taken declared honoured =>
      match piece, honoured with
      | .stall, _ => none
      | .fault f, _ => some (max now (accepted + delay), .fault f, empty)
      | .data b, honoured =>
          let ready := max (accepted + delay) taken
          let t := max now ready
          some (t, .chunk b, .sent rest ready t (declared.map (· - b.length))
            (BodyStep.honour_tail honoured))
  | .asked [] _ => some (now, .finished, .asked [] none)
  | .asked (⟨delay, piece⟩ :: rest) since =>
      let t := max now (since.getD now + delay)
      match piece with
      | .stall => none
      | .fault f => some (t, .fault f, .asked rest none)
      | .data b => some (t, .chunk b, .asked rest none)

/-- A reader that waited from `now` on has given up; a source that was asked goes on. -/
def waited (now : Nat) : Delivery → Delivery
  | .asked steps since => .asked steps (some (since.getD now))
  | d => d

theorem size_next? {now t : Nat} {d d' : Delivery} {a : Arrival}
    (h : d.next? now = some (t, a, d')) (hf : a ≠ .finished) : d'.size < d.size := by
  match d, h with
  | .whole b, h =>
      simp only [next?, Option.some.injEq, Prod.mk.injEq] at h
      obtain ⟨-, ha, rfl⟩ := h
      by_cases hb : b.isEmpty <;> simp_all [size, empty]
  | .sent [] _ _ _ _, h =>
      simp only [next?, Option.some.injEq, Prod.mk.injEq] at h
      exact absurd h.2.1.symm hf
  | .sent (⟨_, .stall⟩ :: _) _ _ _ _, h => simp [next?] at h
  | .sent (⟨_, .fault _⟩ :: _) _ _ _ _, h =>
      simp only [next?, Option.some.injEq, Prod.mk.injEq] at h
      obtain ⟨-, -, rfl⟩ := h
      simp [size, empty]
  | .sent (⟨_, .data _⟩ :: _) _ _ _ _, h =>
      simp only [next?, Option.some.injEq, Prod.mk.injEq] at h
      obtain ⟨-, -, rfl⟩ := h
      simp [size]
  | .asked [] _, h =>
      simp only [next?, Option.some.injEq, Prod.mk.injEq] at h
      exact absurd h.2.1.symm hf
  | .asked (⟨_, .stall⟩ :: _) _, h => simp [next?] at h
  | .asked (⟨_, .fault _⟩ :: _) _, h =>
      simp only [next?, Option.some.injEq, Prod.mk.injEq] at h
      obtain ⟨-, -, rfl⟩ := h
      simp [size]
  | .asked (⟨_, .data _⟩ :: _) _, h =>
      simp only [next?, Option.some.injEq, Prod.mk.injEq] at h
      obtain ⟨-, -, rfl⟩ := h
      simp [size]

end Delivery

end Gateway
