/-!
# Tables over code points

A table holds ascending, disjoint ranges of code points, each with a list of numbers, as a search tree. It is written
as the list of its ranges, and each of these as one numeral: first and last code point and the numbers, with six
hexadecimal digits for each of them, as in `0xc0_0000c0_000041_000300`.
-/

namespace IdentityClient

/-- The code points `first` to `last`, and what the table says about them. -/
structure CodeRange where
  first : Nat
  last : Nat
  data : List Nat
  deriving Repr, Inhabited, DecidableEq

inductive CodeTable where
  | empty
  | node (low : CodeTable) (row : CodeRange) (high : CodeTable)

namespace CodeTable

/-! ### Reading the written form -/

/-- The numbers that a numeral holds in six hexadecimal digits each, put before `acc`; `fuel` bounds how many. -/
def fieldsFrom : (fuel n : Nat) → (acc : List Nat) → List Nat
  | 0, _, acc => acc
  | fuel + 1, n, acc => if n = 0 then acc else fieldsFrom fuel (n / 0x1000000) (n % 0x1000000 :: acc)

def fields (n : Nat) : List Nat := fieldsFrom n n []

def rowOf (n : Nat) : CodeRange :=
  match fields n with
  | first :: last :: data => ⟨first, last, data⟩
  | _ => ⟨n, n, []⟩

/-- A tree of the first rows, no deeper than `depth`, and the rows that are left. -/
def build : (depth : Nat) → List CodeRange → CodeTable × List CodeRange
  | 0, rows => (empty, rows)
  | depth + 1, rows =>
    match build depth rows with
    | (low, []) => (low, [])
    | (low, row :: rest) => (node low row (build depth rest).1, (build depth rest).2)

def ofRows (rows : List Nat) : CodeTable := (build (rows.length.log2 + 1) (rows.map rowOf)).1

/-! ### Looking up -/

/-- The range that holds the code point `c`. -/
def find? : CodeTable → (c : Nat) → Option CodeRange
  | empty, _ => none
  | node low row high, c =>
    if c < row.first then low.find? c else if row.last < c then high.find? c else some row

def contains (t : CodeTable) (c : Char) : Bool := (t.find? c.toNat).isSome

/-- The ranges in order. -/
def toList : CodeTable → List CodeRange
  | empty => []
  | node low row high => low.toList ++ row :: high.toList

/-- A row that is found is one of the table, and covers the code point. -/
theorem find?_sound {t : CodeTable} {c : Nat} {row : CodeRange} (h : t.find? c = some row) :
    row ∈ t.toList ∧ row.first ≤ c ∧ c ≤ row.last := by
  induction t with
  | empty => cases h
  | node low here high ihl ihh =>
    rw [find?] at h
    rw [toList, List.mem_append, List.mem_cons]
    split at h
    · exact ⟨.inl (ihl h).1, (ihl h).2⟩
    · split at h
      · exact ⟨.inr (.inr (ihh h).1), (ihh h).2⟩
      · cases h
        exact ⟨.inr (.inl rfl), by omega, by omega⟩

end CodeTable

end IdentityClient
