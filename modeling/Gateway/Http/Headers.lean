import Gateway.Http.Token
import Gateway.Text.Utf8

/-!
# Header fields

Field names compare without case and are kept in lower case. A message has a list of
field lines; one name may stand in several lines, whose order is part of the meaning.
Values are octets without control characters other than the tab.
-/

namespace Gateway

/-- A field name in lower case. -/
structure FieldName where
  text : String
  deriving DecidableEq, Repr

namespace FieldName

def maxLength : Nat := 65535

def ofChars? (cs : List Char) : Option FieldName :=
  if Token.isToken cs && cs.length ≤ maxLength then
    some ⟨String.ofList (cs.map Char.toLower)⟩
  else none

def parse? (s : String) : Option FieldName :=
  ofChars? s.toList

def connection : FieldName := ⟨"connection"⟩
def contentLength : FieldName := ⟨"content-length"⟩
def contentType : FieldName := ⟨"content-type"⟩
def host : FieldName := ⟨"host"⟩
def retryAfter : FieldName := ⟨"retry-after"⟩
def transferEncoding : FieldName := ⟨"transfer-encoding"⟩
def forwardedFor : FieldName := ⟨"x-forwarded-for"⟩
def forwardedProto : FieldName := ⟨"x-forwarded-proto"⟩
def forwardedHost : FieldName := ⟨"x-forwarded-host"⟩

end FieldName

namespace FieldValue

def isValueOctet (b : UInt8) : Bool :=
  (32 ≤ b && b ≠ 127) || b = 9

def isValid (v : Bytes) : Bool :=
  v.all isValueOctet

def isVisibleOctet (b : UInt8) : Bool :=
  (32 ≤ b && b < 127) || b = 9

/-- The text of a value that has only visible ASCII characters, blanks and tabs. -/
def visible? (v : Bytes) : Option (List Char) :=
  if v.all isVisibleOctet then some (v.map fun b => Char.ofNat b.toNat) else none

end FieldValue

/-- The field lines of a message in their order. -/
structure Headers where
  lines : List (FieldName × Bytes)
  deriving DecidableEq, Repr

namespace Headers

def empty : Headers := ⟨[]⟩

instance : Inhabited Headers := ⟨empty⟩

def append (h : Headers) (n : FieldName) (v : Bytes) : Headers :=
  ⟨h.lines ++ [(n, v)]⟩

def erase (h : Headers) (n : FieldName) : Headers :=
  ⟨h.lines.filter (·.1 ≠ n)⟩

/-- One line for the name in place of all there were. -/
def insert (h : Headers) (n : FieldName) (v : Bytes) : Headers :=
  (h.erase n).append n v

def getAll (h : Headers) (n : FieldName) : List Bytes :=
  (h.lines.filter (·.1 = n)).map (·.2)

def get? (h : Headers) (n : FieldName) : Option Bytes :=
  (h.getAll n).head?

def contains (h : Headers) (n : FieldName) : Bool :=
  h.lines.any (·.1 = n)

/-- Lines by name; lines of one name keep their order. -/
def sorted (h : Headers) : List (FieldName × Bytes) :=
  h.lines.mergeSort fun a b => a.1.text < b.1.text || a.1.text = b.1.text

@[simp] theorem getAll_append (h : Headers) (m n : FieldName) (v : Bytes) :
    (h.append m v).getAll n = h.getAll n ++ (if m = n then [v] else []) := by
  by_cases e : m = n <;> simp [append, getAll, e]

@[simp] theorem getAll_erase (h : Headers) (m n : FieldName) :
    (h.erase m).getAll n = if m = n then [] else h.getAll n := by
  by_cases e : m = n
  · subst e
    simp [erase, getAll, List.filter_filter]
  · simp only [erase, getAll, e, if_false, List.filter_filter]
    congr 1
    apply List.filter_congr
    intro x _
    by_cases hx : x.1 = n
    · simp [hx, Ne.symm e]
    · simp [hx]

@[simp] theorem getAll_insert (h : Headers) (m n : FieldName) (v : Bytes) :
    (h.insert m v).getAll n = if m = n then [v] else h.getAll n := by
  by_cases e : m = n <;> simp [insert, e]

end Headers

end Gateway
