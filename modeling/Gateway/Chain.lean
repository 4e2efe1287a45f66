import Gateway.Error.Basic

/-!
# Chains of named handlers

A chain is a list of handlers in the order in which they were added, each under a name
of its own. A list taken from a chain stays as it was when the chain changes.
-/

namespace Gateway

structure Chain (η : Type) where
  entries : List (String × η) := []
  deriving DecidableEq, Repr

namespace Chain

variable {η : Type}

def empty : Chain η := {}

def contains (c : Chain η) (name : String) : Bool :=
  c.entries.any (·.1 = name)

def get? (c : Chain η) (name : String) : Option η :=
  (c.entries.find? (·.1 = name)).map (·.2)

def names (c : Chain η) : List String :=
  c.entries.map (·.1)

def size (c : Chain η) : Nat := c.entries.length

/-- Adds a handler at the end under a name that is free. -/
def append (c : Chain η) (name : String) (h : η) : Except Error (Chain η) :=
  if c.contains name then .error (.nameTaken name) else .ok ⟨c.entries ++ [(name, h)]⟩

/-- Puts a handler in the place of the one under its name, or at the end. -/
def update (c : Chain η) (name : String) (h : η) : Chain η :=
  if c.contains name then
    ⟨c.entries.map fun e => if e.1 = name then (name, h) else e⟩
  else ⟨c.entries ++ [(name, h)]⟩

def remove (c : Chain η) (name : String) : Except Error (Chain η) :=
  if c.contains name then .ok ⟨c.entries.filter (·.1 ≠ name)⟩ else .error (.nameUnknown name)

end Chain

end Gateway
