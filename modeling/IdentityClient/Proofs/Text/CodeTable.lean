import IdentityClient.Text.CodeTable
import Mathlib.Data.Nat.Bitwise

/-!
# Searching a table over code points

In a table whose ranges ascend (`CodeTable.ascends`) every code point that a range covers is found
(`CodeTable.find?_of_mem`). What many rows say at once is compared as sets of code points, and each of these is a
number that has a bit for every code point of the set (`CodeTable.bits`).
-/

namespace IdentityClient

namespace CodeRange

variable {row : CodeRange} {c : Nat}

def Covers (row : CodeRange) (c : Nat) : Prop := row.first ≤ c ∧ c ≤ row.last

/-- The code points of a range, as a set of bits. -/
def spanBits (row : CodeRange) : Nat := (2 ^ (row.last + 1 - row.first) - 1) <<< row.first

/-- The numbers of a range, as a set of bits. -/
def dataBits (row : CodeRange) : Nat := row.data.foldr (fun d n => 1 <<< d ||| n) 0

theorem testBit_spanBits : row.spanBits.testBit c = true ↔ row.Covers c := by
  simp only [spanBits, Covers, Nat.testBit_shiftLeft, Nat.testBit_two_pow_sub_one, Bool.and_eq_true,
    decide_eq_true_eq]
  omega

theorem testBit_foldr {ds : List Nat} : (ds.foldr (fun d n => 1 <<< d ||| n) 0).testBit c = true ↔ c ∈ ds := by
  induction ds with
  | nil => simp
  | cons d ds ih =>
    rw [List.foldr_cons, Nat.testBit_or, Bool.or_eq_true, ih, Nat.one_shiftLeft, Nat.testBit_two_pow,
      decide_eq_true_eq, List.mem_cons, eq_comm]

theorem testBit_dataBits : row.dataBits.testBit c = true ↔ c ∈ row.data := testBit_foldr

end CodeRange

namespace CodeTable

variable {t : CodeTable} {c n low high : Nat} {row : CodeRange} {f : CodeRange → Nat}

/-! ### Ascending ranges -/

/-- Whether the ranges ascend, without overlap, from `low` to below `high`. -/
def ascends : CodeTable → (low high : Nat) → Bool
  | empty, _, _ => true
  | node below row above, low, high =>
    below.ascends low row.first && decide (low ≤ row.first) && decide (row.first ≤ row.last) &&
      decide (row.last < high) && above.ascends (row.last + 1) high

theorem bounds_of_mem (sorted : t.ascends low high = true) (h : row ∈ t.toList) :
    low ≤ row.first ∧ row.first ≤ row.last ∧ row.last < high := by
  induction t generalizing low high with
  | empty => cases h
  | node below here above ihb iha =>
    simp only [ascends, Bool.and_eq_true, decide_eq_true_eq] at sorted
    obtain ⟨⟨⟨⟨b, start⟩, filled⟩, stop⟩, a⟩ := sorted
    rw [toList, List.mem_append, List.mem_cons] at h
    rcases h with h | rfl | h
    · have := ihb b h
      omega
    · omega
    · have := iha a h
      omega

/-- In an ascending table, a row is found for every code point that it covers. -/
theorem find?_of_mem (sorted : t.ascends low high = true) (h : row ∈ t.toList) (covers : row.Covers c) :
    t.find? c = some row := by
  obtain ⟨first, last⟩ := covers
  induction t generalizing low high with
  | empty => cases h
  | node below here above ihb iha =>
    simp only [ascends, Bool.and_eq_true, decide_eq_true_eq] at sorted
    obtain ⟨⟨⟨⟨b, -⟩, filled⟩, -⟩, a⟩ := sorted
    rw [toList, List.mem_append, List.mem_cons] at h
    rw [find?]
    rcases h with h | rfl | h
    · have := bounds_of_mem b h
      rw [if_pos (by omega)]
      exact ihb b h
    · rw [if_neg (by omega), if_neg (by omega)]
    · have := bounds_of_mem a h
      rw [if_neg (by omega), if_pos (by omega)]
      exact iha a h

/-! ### Sets of code points -/

/-- The union of the sets that `f` gives for the rows. -/
def bits (f : CodeRange → Nat) : CodeTable → Nat
  | empty => 0
  | node low row high => low.bits f ||| (f row ||| high.bits f)

theorem testBit_bits : (t.bits f).testBit n = true ↔ ∃ row ∈ t.toList, (f row).testBit n = true := by
  induction t with
  | empty => simp [bits, toList]
  | node low row high ihl ihh =>
    simp only [bits, toList, Nat.testBit_or, Bool.or_eq_true, ihl, ihh, List.mem_append, List.mem_cons]
    constructor
    · rintro (⟨r, hr, h⟩ | h | ⟨r, hr, h⟩)
      · exact ⟨r, .inl hr, h⟩
      · exact ⟨row, .inr (.inl rfl), h⟩
      · exact ⟨r, .inr (.inr hr), h⟩
    · rintro ⟨r, hr | rfl | hr, h⟩
      · exact .inl ⟨r, hr, h⟩
      · exact .inr (.inl h)
      · exact .inr (.inr ⟨r, hr, h⟩)

/-- The code points that a table covers. -/
def span (t : CodeTable) : Nat := t.bits CodeRange.spanBits

theorem find?_eq_none (h : t.span.testBit c = false) : t.find? c = none := by
  refine Option.eq_none_iff_forall_not_mem.2 fun row found => ?_
  obtain ⟨mem, covers⟩ := find?_sound found
  exact absurd (testBit_bits.2 ⟨row, mem, CodeRange.testBit_spanBits.2 covers⟩) (by simp [span.eq_1 t ▸ h])

theorem testBit_span_eq_false (sorted : t.ascends low high = true) (h : t.find? c = none) :
    t.span.testBit c = false := by
  refine Bool.eq_false_iff.2 fun set => ?_
  obtain ⟨row, mem, covers⟩ := testBit_bits.1 set
  rw [find?_of_mem sorted mem (CodeRange.testBit_spanBits.1 covers)] at h
  cases h

end CodeTable

/-- Sets without a common bit. -/
theorem testBit_eq_false_of_land {a b n : Nat} (disjoint : a &&& b = 0) (h : a.testBit n = true) :
    b.testBit n = false := by
  have both : (a &&& b).testBit n = (a.testBit n && b.testBit n) := Nat.testBit_and a b n
  simpa [disjoint, h] using both.symm

end IdentityClient
