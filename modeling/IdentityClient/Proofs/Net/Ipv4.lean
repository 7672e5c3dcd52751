import IdentityClient.Net.Ipv4
import Mathlib.Data.Nat.Digits.Defs

/-!
# Written IPv4 addresses read back

Digits first: what `Nat.toDigits` writes is read as the number that was written, in base ten and in base sixteen. An
address is four such numbers between dots, which both readers, the strict one and that of URLs, take apart again.
-/

namespace IdentityClient

/-- What holds of the characters of a text is checked on them, not on all characters. -/
instance decidableForallMemChars (cs : List Char) (p : Char → Prop) [DecidablePred p] : Decidable (∀ c ∈ cs, p c) :=
  List.decidableBAll p cs

theorem Hex.value?_digitChar {d : Nat} (h : d < 16) : value? (Nat.digitChar d) = some d := by
  revert d
  decide

/-- What cuts a text at every `mark`, character by character, is the library's `splitOn`. -/
theorem eq_splitOn {mark : Char} {cut : List Char → List (List Char)} (nil : cut [] = [[]])
    (cons : ∀ c cs, cut (c :: cs) = if c = mark then [] :: cut cs else match cut cs with
      | part :: parts => (c :: part) :: parts
      | [] => [[c]]) (cs : List Char) : cut cs = cs.splitOn mark := by
  induction cs with
  | nil => exact nil
  | cons c cs ih =>
    rw [cons, ih, List.splitOn_cons_eq_if_modifyHead]
    by_cases hc : c = mark
    · simp [hc]
    · cases h : cs.splitOn mark with
      | nil => exact absurd h (List.splitOn_ne_nil mark cs)
      | cons part parts => simp [hc]

namespace Ipv4

variable {a : Ipv4} {n b : Nat} {c : Char} {cs ds : List Char}

theorem mem_toDigits (hb : 1 < b) (h : c ∈ Nat.toDigits b n) : ∃ d < b, c = Nat.digitChar d := by
  induction n using Nat.strongRecOn with
  | _ n ih =>
    by_cases hn : n < b
    · rw [Nat.toDigits_of_lt_base hn, List.mem_singleton] at h
      exact ⟨n, hn, h⟩
    · rw [Nat.toDigits_of_base_le hb (Nat.le_of_not_lt hn), List.mem_append, List.mem_singleton] at h
      rcases h with h | h
      · exact ih (n / b) (Nat.div_lt_self (by omega) hb) h
      · exact ⟨n % b, Nat.mod_lt n (by omega), h⟩

theorem valueIn_append_singleton (b : Nat) (cs : List Char) (c : Char) :
    valueIn b (cs ++ [c]) = valueIn b cs * b + (Hex.value? c).getD 0 := by
  simp [valueIn]

theorem valueIn_toDigits (hb : 1 < b) (hb' : b ≤ 16) (n : Nat) : valueIn b (Nat.toDigits b n) = n := by
  induction n using Nat.strongRecOn with
  | _ n ih =>
    by_cases hn : n < b
    · have digit : Hex.value? (Nat.digitChar n) = some n := Hex.value?_digitChar (by omega)
      rw [Nat.toDigits_of_lt_base hn]
      simp [valueIn, digit]
    · have digit : Hex.value? (Nat.digitChar (n % b)) = some (n % b) :=
        Hex.value?_digitChar (Nat.lt_of_lt_of_le (Nat.mod_lt n (by omega)) hb')
      rw [Nat.toDigits_of_base_le hb (Nat.le_of_not_lt hn), valueIn_append_singleton, digit,
        ih (n / b) (Nat.div_lt_self (by omega) hb)]
      exact Nat.div_add_mod' n b

theorem decimalValue_toDigits (n : Nat) : decimalValue (Nat.toDigits 10 n) = n := by
  have read : Nat.ofDigitChars 10 (Nat.toDigits 10 n) 0 = n := Nat.ofDigitChars_ten_toDigits
  rw [Nat.ofDigitChars_eq_foldl] at read
  simpa only [decimalValue, Nat.mul_comm] using read

theorem isDigit_of_mem (h : c ∈ Nat.toDigits 10 n) : c.isDigit = true :=
  Nat.isDigit_of_mem_toDigits (by decide) (by decide) h

theorem all_isDigit_toDigits (n : Nat) : (Nat.toDigits 10 n).all Char.isDigit = true :=
  List.all_eq_true.2 fun _ => isDigit_of_mem

theorem not_mem_toDigits (hc : c.isDigit = false) : c ∉ Nat.toDigits 10 n := by
  intro h
  rw [isDigit_of_mem h] at hc
  cases hc

theorem head?_append_toDigits (n : Nat) (cs : List Char) :
    (Nat.toDigits b n ++ cs).head? = (Nat.toDigits b n).head? := by
  rw [List.head?_append]
  cases h : Nat.toDigits b n with
  | nil => exact absurd h Nat.toDigits_ne_nil
  | cons c rest => rfl

/-- Only zero starts with a zero. -/
theorem eq_zero_of_head (h : (Nat.toDigits 10 n).head? = some '0') : n = 0 := by
  induction n using Nat.strongRecOn with
  | _ n ih =>
    by_cases hn : n < 10
    · rw [Nat.toDigits_of_lt_base hn] at h
      exact Nat.digitChar_eq_zero.1 (Option.some.inj h)
    · rw [Nat.toDigits_of_base_le (by decide) (Nat.le_of_not_lt hn), head?_append_toDigits] at h
      have := ih (n / 10) (by omega) h
      omega

theorem eq_nil_of_head (h : Nat.toDigits 10 n = '0' :: cs) : cs = [] := by
  have zero : n = 0 := eq_zero_of_head (by rw [h]; rfl)
  rw [zero] at h
  exact (List.cons.inj h).2.symm

theorem number?_toDigits (n : Nat) : number? (Nat.toDigits 10 n) = some n := by
  have value : valueIn 10 (Nat.toDigits 10 n) = n := valueIn_toDigits (by decide) (by decide) n
  have digits : (Nat.toDigits 10 n).all Char.isDigit = true := all_isDigit_toDigits n
  unfold number?
  split
  · exact absurd ‹_› Nat.toDigits_ne_nil
  · cases eq_nil_of_head ‹_›
  · cases eq_nil_of_head ‹_›
  · cases eq_nil_of_head ‹_›
  · rw [if_pos digits, value]

theorem strictPart?_toDigits (h : n < 256) : strictPart? (Nat.toDigits 10 n) = some n := by
  have short : (Nat.toDigits 10 n).length ≤ 3 :=
    (Nat.length_toDigits_le_iff (by decide) (by decide)).2 (by omega)
  have leading : ¬ (1 < (Nat.toDigits 10 n).length ∧ (Nat.toDigits 10 n).head? = some '0') := by
    rintro ⟨long, zero⟩
    rw [eq_zero_of_head zero] at long
    exact absurd long (by decide)
  have plain : ((Nat.toDigits 10 n).isEmpty || !(Nat.toDigits 10 n).all Char.isDigit ||
      decide (3 < (Nat.toDigits 10 n).length) ||
      (decide (1 < (Nat.toDigits 10 n).length) && (Nat.toDigits 10 n).head? == some '0')) = false := by
    simpa [Nat.toDigits_ne_nil, all_isDigit_toDigits, short] using leading
  rw [strictPart?, if_neg (by rw [plain]; exact Bool.false_ne_true), decimalValue_toDigits]
  exact if_pos h

/-! ### Parts between dots -/

theorem cutDots_eq (cs : List Char) : cutDots cs = cs.splitOn '.' := eq_splitOn rfl (fun _ _ => rfl) cs

/-- The number at `index`, in digits. -/
def partDigits (a : Ipv4) (index : Nat) : List Char := Nat.toDigits 10 (a.part index)

theorem toList_render (a : Ipv4) : a.render.toList = a.partDigits 3 ++ '.' :: (a.partDigits 2 ++
    '.' :: (a.partDigits 1 ++ '.' :: a.partDigits 0)) := by
  simp [render, partDigits]

theorem mem_render (h : c ∈ a.render.toList) : (∃ d < 10, c = Nat.digitChar d) ∨ c = '.' := by
  simp only [toList_render, List.mem_append, List.mem_cons] at h
  rcases h with h | rfl | h | rfl | h | rfl | h
  all_goals first | exact .inl (mem_toDigits (by decide) h) | exact .inr rfl

theorem cutDots_render (a : Ipv4) :
    cutDots a.render.toList = [a.partDigits 3, a.partDigits 2, a.partDigits 1, a.partDigits 0] := by
  have no_dot (i : Nat) : '.' ∉ a.partDigits i := not_mem_toDigits (by decide)
  simp only [toList_render, cutDots_eq, List.splitOn_append_cons_self_of_not_mem (no_dot _),
    List.splitOn_eq_singleton (no_dot 0)]

theorem hostParts_render (a : Ipv4) :
    hostParts a.render.toList = [a.partDigits 3, a.partDigits 2, a.partDigits 1, a.partDigits 0] := by
  have filled : a.partDigits 0 ≠ [] := Nat.toDigits_ne_nil
  simp [hostParts, cutDots_render, filled]

theorem part_lt (a : Ipv4) (i : Nat) : a.part i < 256 := Nat.mod_lt _ (by decide)

/-- The four numbers make up the address. -/
theorem parts_eq (a : Ipv4) : ((a.part 3 * 256 + a.part 2) * 256 + a.part 1) * 256 + a.part 0 = a.bits.toNat := by
  have bound : a.bits.toNat < 4294967296 := a.bits.toNat_lt
  simp only [part, Nat.pow_eq, Nat.reducePow]
  omega

theorem ofParts_parts (a : Ipv4) : ofParts (a.part 3) (a.part 2) (a.part 1) (a.part 0) = a := by
  rw [ofParts, parts_eq, UInt32.ofNat_toNat]

theorem parseStrict?_render (a : Ipv4) : parseStrict? a.render.toList = some a := by
  have read (i : Nat) : strictPart? (a.partDigits i) = some (a.part i) := strictPart?_toDigits (a.part_lt i)
  simp [parseStrict?, cutDots_render, read, ofParts_parts]

theorem parseLoose?_render (a : Ipv4) : parseLoose? a.render.toList = some a := by
  have read (i : Nat) : number? (a.partDigits i) = some (a.part i) := number?_toDigits _
  have small (i : Nat) : ¬ 255 < a.part i := by have := a.part_lt i; omega
  have low : ¬ 256 ≤ a.part 0 := by have := a.part_lt 0; omega
  have joined : join? [a.part 3, a.part 2, a.part 1, a.part 0] = some a := by
    simp [join?, small, low, parts_eq]
  simp [parseLoose?, hostParts_render, read, joined]

/-- So a name that an address is written as is read as the address. -/
theorem endsInNumber_render (a : Ipv4) : endsInNumber a.render.toList = true := by
  have digits : (a.partDigits 0).all Char.isDigit = true := all_isDigit_toDigits _
  have filled : a.partDigits 0 ≠ [] := Nat.toDigits_ne_nil
  simp [endsInNumber, hostParts_render, digits, filled]

end Ipv4

end IdentityClient
