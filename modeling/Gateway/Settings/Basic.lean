/-!
# Settings

Settings are structures, lists and leaves, in a format that gives a view of each of them.
A leaf has every reading that the format allows, which may leave open whether its text is
a number or a word. The members of a structure are found by name, or by place when a list
stands for the structure.

Reading answers `none` when the settings do not fit.
-/

namespace Gateway

/-- The readings of a leaf. -/
structure Leaf where
  /-- Whether it stands for no value, where a value may be left out. -/
  null? : Option Bool := some false
  bool? : Option Bool := none
  nat? : Option Nat := none
  real? : Option Float := none
  text? : Option String := none
  /-- As one of a choice of words. -/
  word? : Option String := none
  /-- Whether it stands for an empty list or structure. -/
  isEmpty : Bool := false

/-- What settings of a format look like from outside. -/
inductive View (σ : Type) where
  | leaf (l : Leaf)
  | list (items : List σ)
  /-- Members by name, as far as names are texts, and the word for which they stand. -/
  | members (entries : List (Option String × σ)) (word? : Option String)

class Settings (σ : Type) where
  view : σ → View σ

/-- The members of a structure that were found. -/
structure Members (σ : Type) where
  found : List (String × σ)
  byPlace : Bool

namespace Settings

variable {σ α : Type} [Settings σ]

def leaf? (s : σ) : Option Leaf :=
  match view s with
  | .leaf l => some l
  | _ => none

def bool? (s : σ) : Option Bool := (leaf? s).bind Leaf.bool?
def text? (s : σ) : Option String := (leaf? s).bind Leaf.text?
def real? (s : σ) : Option Float := (leaf? s).bind Leaf.real?

/-- A natural number of so many bits. -/
def natOfBits? (bits : Nat) (s : σ) : Option Nat :=
  ((leaf? s).bind Leaf.nat?).filter (· < Nat.pow 2 bits)

def word? (s : σ) : Option String :=
  match view s with
  | .leaf l => l.word?
  | .list _ => none
  | .members _ w => w

/-- A value that may be left out. -/
def orNull? (read : σ → Option α) (s : σ) : Option (Option α) :=
  match leaf? s with
  | some l =>
      match l.null? with
      | some true => some none
      | some false => (read s).map some
      | none => none
  | none => (read s).map some

def list? (read : σ → Option α) (s : σ) : Option (List α) :=
  match view s with
  | .list items => items.mapM read
  | .leaf l => if l.isEmpty then some [] else none
  | .members .. => none

/-- The members with these names. Other names are passed over, but each of these may
stand only once, and a list must not be longer than they are. -/
def members? (names : List String) (s : σ) : Option (Members σ) :=
  match view s with
  | .leaf l => if l.isEmpty then some ⟨[], false⟩ else none
  | .list items => if items.length ≤ names.length then some ⟨names.zip items, true⟩ else none
  | .members entries _ => do
      let named ← entries.mapM fun (name, s) => name.map (·, s)
      let known := named.filter fun e => names.contains e.1
      if names.all fun n => known.countP (·.1 = n) ≤ 1 then some ⟨known, false⟩ else none

end Settings

namespace Members

variable {σ α : Type} [Settings σ]

def find? (m : Members σ) (name : String) : Option σ :=
  (m.found.find? (·.1 = name)).map (·.2)

def required (m : Members σ) (name : String) (read : σ → Option α) : Option α :=
  (m.find? name).bind read

/-- A member with a default. -/
def withDefault (m : Members σ) (name : String) (default : α) (read : σ → Option α) : Option α :=
  match m.find? name with
  | some s => read s
  | none => some default

/-- A member that may be left out by name or be given as nothing. -/
def optional (m : Members σ) (name : String) (read : σ → Option α) : Option (Option α) :=
  match m.find? name with
  | some s => Settings.orNull? read s
  | none => if m.byPlace then none else some none

end Members

end Gateway
