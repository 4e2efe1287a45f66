/-!
# Runs

A computation that takes time may come to an end, wait for ever, or break down.
-/

namespace Gateway

inductive Run (α : Type) where
  | ended (a : α)
  | stuck
  | broken

namespace Run

variable {α γ : Type}

def bind (r : Run α) (f : α → Run γ) : Run γ :=
  match r with
  | .ended a => f a
  | .stuck => .stuck
  | .broken => .broken

instance : Monad Run where
  pure := .ended
  bind := bind

def ofOption : Option α → Run α
  | some a => .ended a
  | none => .stuck

end Run

end Gateway
