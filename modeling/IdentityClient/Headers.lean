import IdentityClient.Text.Utf8

/-!
# Header lists

Headers are kept in the order in which they were added; one name may have several values. Names are
lower case, values are bytes and may be marked sensitive.
-/

namespace IdentityClient

structure HeaderValue where
  bytes : Bytes
  sensitive : Bool := false
  deriving DecidableEq, Repr, Inhabited

namespace HeaderValue

def ofString (s : String) : HeaderValue := ⟨Utf8.encode s, false⟩

/-- A byte that may stand in a header value: no control byte but the tab. -/
def isAllowed (b : UInt8) : Bool := (0x20 ≤ b && b != 0x7f) || b == 0x09

/-- The value of a text, if every byte of it may stand in a header. -/
def ofString? (s : String) : Option HeaderValue :=
  let bytes := Utf8.encode s
  if bytes.all isAllowed then some ⟨bytes, false⟩ else none

theorem ofString?_eq_some_iff {s : String} {v : HeaderValue} :
    ofString? s = some v ↔ (Utf8.encode s).all isAllowed ∧ v = ⟨Utf8.encode s, false⟩ := by
  by_cases h : (Utf8.encode s).all isAllowed <;> simp [ofString?, h, eq_comm]

/-- A byte that is shown as ASCII text: a printing character or a tab. -/
def isShown (b : UInt8) : Bool := (0x20 ≤ b && b < 0x7f) || b == 0x09

/-- The value as text, if it consists of printing ASCII and tabs. -/
def toString? (v : HeaderValue) : Option String :=
  if v.bytes.all isShown then some (String.ofList (v.bytes.map fun b => Char.ofNat b.toNat)) else none

end HeaderValue

abbrev Headers := List (String × HeaderValue)

namespace Headers

/-- The first value of a name. -/
def get? (h : Headers) (name : String) : Option HeaderValue := h.lookup name

/-- All values of a name, in order. -/
def getAll (h : Headers) (name : String) : List HeaderValue :=
  (h.filter fun e => e.1 == name).map (·.2)

def contains (h : Headers) (name : String) : Bool := h.any fun e => e.1 == name

/-- The headers without any value of `name`. -/
def erase (h : Headers) (name : String) : Headers := h.filter fun e => e.1 != name

/-- Replaces every value of `name` by one. -/
def insert (h : Headers) (name : String) (v : HeaderValue) : Headers := h.erase name ++ [(name, v)]

def append (h : Headers) (name : String) (v : HeaderValue) : Headers := h ++ [(name, v)]

/-- The headers of `h` with those of `extra` added; a name in `extra` replaces its values in `h`. -/
def extend (h extra : Headers) : Headers :=
  (h.filter fun e => !extra.contains e.1) ++ extra

/-- Of several values, the one that was added first is found. -/
theorem get?_eq_head? (h : Headers) (name : String) : h.get? name = (h.getAll name).head? := by
  unfold get? getAll
  induction h with
  | nil => rfl
  | cons e h ih =>
    obtain ⟨other, v⟩ := e
    by_cases same : other = name
    · subst same
      simp
    · have differs : (name == other) = false := beq_eq_false_iff_ne.2 (Ne.symm same)
      rw [List.lookup_cons, differs, List.filter_cons_of_neg (by simpa using same)]
      exact ih

@[simp] theorem getAll_insert_self (h : Headers) (name : String) (v : HeaderValue) :
    (h.insert name v).getAll name = [v] := by
  simp [insert, getAll, erase, List.filter_filter]

theorem getAll_insert_of_ne (h : Headers) {name other : String} (v : HeaderValue) (ne : other ≠ name) :
    (h.insert name v).getAll other = h.getAll other := by
  have keep : (h.filter fun e => e.1 == other && e.1 != name) = h.filter fun e => e.1 == other := by
    apply List.filter_congr
    intro e _
    by_cases he : e.1 = other <;> simp [he, ne]
  simp [insert, getAll, erase, List.filter_filter, keep, Ne.symm ne]

/-- Sorted by name; the values of one name keep their order. -/
def sorted (h : Headers) : Headers := h.mergeSort fun a b => a.1 ≤ b.1

end Headers

end IdentityClient
