import IdentityClient.Proofs.Net.Idna.Stays

/-!
# Parts of characters

A character is decomposed at once (`Idna.decompose_of_mem`), and decomposing undoes what composing does
(`Idna.decompose_compose`): for Hangul by arithmetic, for every other pair by a look at the tables. A dot is no part of any
other character, and joins none.
-/

namespace IdentityClient.Idna

variable {a b c d r : Char} {n m k : Nat} {data : List Nat}

/-! ### What the tables say -/

def syllableSpan : Nat := span 0xAC00 0xD7A3

/-- The letters of syllables. -/
def letterSpan : Nat := span 0x1100 0x1112 ||| (span 0x1161 0x1175 ||| span 0x11A8 0x11C2)

/-- No part is decomposed again, none is a dot, and the letters of syllables are parts. -/
theorem parts_apart : decompositionTable.bits CodeRange.dataBits &&& decompositionTable.span = 0 ∧
    syllableSpan &&& decompositionTable.bits CodeRange.dataBits = 0 ∧
      span 0x2E 0x2E &&& decompositionTable.bits CodeRange.dataBits = 0 ∧ letterSpan &&& decompositionTable.span = 0 ∧
        ideographSpan &&& decompositionTable.span = 0 := by
  decide +kernel

/-- Whether every pair `second, result, …` is undone by decomposing the result; no second character is in ASCII. -/
def pairsFit (a : Char) : List Nat → Bool
  | second :: result :: rest =>
    decide (0x300 ≤ second) && decide (decompose (Char.ofNat result) = decompose a ++ [Char.ofNat second]) &&
      pairsFit a rest
  | _ => true

theorem compositions_fit : compositionTable.toList.all (fun row => decide (row.first = row.last ∧ row.first ≠ 0x2E) &&
    pairsFit (Char.ofNat row.first) row.data) = true := by
  decide +kernel

theorem pairsFit_of_found (fit : pairsFit a data = true) (found : pairResult? m data = some n) :
    0x300 ≤ m ∧ decompose (Char.ofNat n) = decompose a ++ [Char.ofNat m] := by
  induction data using pairsFit.induct with
  | case1 second result rest ih =>
    simp only [pairsFit, Bool.and_eq_true, decide_eq_true_eq] at fit
    rw [pairResult?] at found
    split at found
    · rename_i here
      obtain rfl := Option.some.inj found
      exact here ▸ fit.1
    · exact ih fit.2 found
  | case2 data other =>
    unfold pairResult? at found
    split at found
    · exact absurd rfl (other _ _ _)
    · cases found

/-! ### Hangul -/

theorem toNat_ofNat_or (n : Nat) : (Char.ofNat n).toNat = n ∨ (Char.ofNat n).toNat = 0 := by
  by_cases valid : n.isValidChar
  · rw [Char.ofNat, dif_pos valid]
    exact .inl rfl
  · rw [Char.ofNat, dif_neg valid]
    exact .inr rfl

theorem toNat_ofNat (low : n < 0xD800) : (Char.ofNat n).toNat = n := by
  rw [Char.ofNat, dif_pos (.inl low)]
  rfl

theorem testBit_letterSpan : letterSpan.testBit n = true ↔
    (0x1100 ≤ n ∧ n ≤ 0x1112) ∨ (0x1161 ≤ n ∧ n ≤ 0x1175) ∨ (0x11A8 ≤ n ∧ n ≤ 0x11C2) := by
  simp only [letterSpan, Nat.testBit_or, Bool.or_eq_true, testBit_span]

/-- A character that is neither a syllable nor in the table is its own part. -/
theorem decompose_of_apart (word : n < 0xAC00 ∨ 0xD7A3 < n) (apart : decompositionTable.span.testBit n = false) :
    decompose (Char.ofNat n) = [Char.ofNat n] := by
  obtain ⟨-, -, -, -, -, -, base, count⟩ := hangul_values
  unfold decompose
  dsimp only
  obtain same | zero := toNat_ofNat_or n
  · rw [same]
    split
    · rfl
    · split
      · omega
      · rw [CodeTable.find?_eq_none apart]
  · rw [if_pos (by omega)]

theorem decompose_letter (letter : letterSpan.testBit n = true) : decompose (Char.ofNat n) = [Char.ofNat n] := by
  refine decompose_of_apart ?_ (testBit_eq_false_of_land parts_apart.2.2.2.1 letter)
  rw [testBit_letterSpan] at letter
  omega

theorem decompose_syllable (syllable : 0xAC00 ≤ n ∧ n ≤ 0xD7A3) :
    decompose (Char.ofNat n) = (hangulParts n).map Char.ofNat := by
  obtain ⟨-, -, -, -, -, -, base, count⟩ := hangul_values
  unfold decompose
  dsimp only
  rw [toNat_ofNat (by omega), if_neg (by omega), if_pos (by omega)]

theorem letter_of_hangulParts (syllable : 0xAC00 ≤ n ∧ n ≤ 0xD7A3) (hk : k ∈ hangulParts n) :
    letterSpan.testBit k = true := by
  obtain ⟨lead, vowel, tail, -, vowels, tails, base, -⟩ := hangul_values
  rw [hangulParts, vowels, tails] at hk
  rw [testBit_letterSpan]
  split at hk
  all_goals
    simp only [List.mem_cons, List.not_mem_nil, or_false] at hk
    omega

/-- Joining two parts of a syllable appends the second to the parts of the first. -/
theorem decompose_hangulJoin (joined : hangulJoin? m n = some k) :
    decompose (Char.ofNat k) = decompose (Char.ofNat m) ++ [Char.ofNat n] := by
  obtain ⟨lead, vowel, tail, leads, vowels, tails, base, count⟩ := hangul_values
  rw [hangulJoin?] at joined
  split at joined
  · rename_i letters
    have first : letterSpan.testBit m = true := testBit_letterSpan.2 (by omega)
    obtain rfl := Option.some.inj joined
    rw [vowels, tails, decompose_letter first, decompose_syllable (by omega), hangulParts, vowels, tails]
    rw [if_pos (by omega)]
    have parts : leadBase + (hangulBase + ((m - leadBase) * 21 + (n - vowelBase)) * 28 - hangulBase) / (21 * 28) = m ∧
        vowelBase + (hangulBase + ((m - leadBase) * 21 + (n - vowelBase)) * 28 - hangulBase) % (21 * 28) / 28 = n := by
      omega
    rw [parts.1, parts.2]
    rfl
  · split at joined
    · rename_i syllable
      rw [tails] at syllable
      obtain rfl := Option.some.inj joined
      rw [decompose_syllable (by omega), decompose_syllable (by omega), hangulParts, hangulParts, vowels, tails,
        if_neg (by omega), if_pos (by omega)]
      have parts : (m + (n - tailBase) - hangulBase) / (21 * 28) = (m - hangulBase) / (21 * 28) ∧
          (m + (n - tailBase) - hangulBase) % (21 * 28) / 28 = (m - hangulBase) % (21 * 28) / 28 ∧
            tailBase + (m + (n - tailBase) - hangulBase) % 28 = n := by
        omega
      rw [parts.1, parts.2.1, parts.2.2]
      rfl
    · cases joined

/-! ### All characters -/

/-- Parts are not decomposed again. -/
theorem decompose_of_mem (hd : d ∈ decompose c) : decompose d = [d] := by
  obtain ⟨-, -, -, -, -, -, base, count⟩ := hangul_values
  unfold decompose at hd
  dsimp only at hd
  split at hd
  · obtain rfl := List.mem_singleton.1 hd
    unfold decompose
    rw [if_pos ‹_›]
  · split at hd
    · obtain ⟨n, hn, rfl⟩ := List.mem_map.1 hd
      exact decompose_letter (letter_of_hangulParts (by omega) hn)
    · rename_i word
      split at hd
      · rename_i row found
        obtain ⟨n, hn, rfl⟩ := List.mem_map.1 hd
        have part : (decompositionTable.bits CodeRange.dataBits).testBit n = true :=
          CodeTable.testBit_bits.2 ⟨row, (CodeTable.find?_sound found).1, CodeRange.testBit_dataBits.2 hn⟩
        refine decompose_of_apart ?_ (testBit_eq_false_of_land parts_apart.1 part)
        have no_syllable := mt (testBit_eq_false_of_land parts_apart.2.1 (n := n)) (by simp [part])
        rw [syllableSpan, testBit_span] at no_syllable
        omega
      · rename_i missing
        obtain rfl := List.mem_singleton.1 hd
        unfold decompose
        dsimp only
        rw [if_neg ‹_›, if_neg word, missing]

/-- Decomposing undoes composing. -/
theorem decompose_compose (joined : compose? a b = some r) : decompose r = decompose a ++ [b] := by
  rw [compose?] at joined
  split at joined
  · rename_i n found
    obtain rfl := Option.some.inj joined
    have undone := decompose_hangulJoin found
    rwa [Char.ofNat_toNat, Char.ofNat_toNat] at undone
  · split at joined
    · rename_i row found
      obtain ⟨n, hn, rfl⟩ := Option.map_eq_some_iff.1 joined
      obtain ⟨mem, low, high⟩ := CodeTable.find?_sound found
      have fit := List.all_eq_true.1 compositions_fit row mem
      simp only [Bool.and_eq_true, decide_eq_true_eq] at fit
      have first : Char.ofNat row.first = a := by
        rw [show row.first = a.toNat by omega, Char.ofNat_toNat]
      have undone := (pairsFit_of_found fit.2 hn).2
      rwa [first, Char.ofNat_toNat] at undone
    · cases joined

/-! ### Dots -/

theorem toNat_dot : '.'.toNat = 0x2E := rfl

theorem dot_of_mem_decompose (hd : '.' ∈ decompose c) : c = '.' := by
  obtain ⟨-, -, -, -, -, -, base, count⟩ := hangul_values
  unfold decompose at hd
  dsimp only at hd
  have part_ne {n : Nat} (dot : Char.ofNat n = '.') : n = 0x2E := by
    have value := congrArg Char.toNat dot
    rw [toNat_dot] at value
    have := toNat_ofNat_or n
    omega
  split at hd
  · exact (List.mem_singleton.1 hd).symm
  · split at hd
    · obtain ⟨n, hn, dot⟩ := List.mem_map.1 hd
      have letter := letter_of_hangulParts (by omega) hn
      rw [part_ne dot, testBit_letterSpan] at letter
      omega
    · split at hd
      · rename_i row found
        obtain ⟨n, hn, dot⟩ := List.mem_map.1 hd
        have part : (decompositionTable.bits CodeRange.dataBits).testBit n = true :=
          CodeTable.testBit_bits.2 ⟨row, (CodeTable.find?_sound found).1, CodeRange.testBit_dataBits.2 hn⟩
        have no_dot := mt (testBit_eq_false_of_land parts_apart.2.2.1 (n := n)) (by simp [part])
        rw [testBit_span, part_ne dot] at no_dot
        omega
      · exact (List.mem_singleton.1 hd).symm

theorem hangulJoin?_eq_none (h : m < 0x1100 ∨ n < 0x1100) : hangulJoin? m n = none := by
  obtain ⟨lead, vowel, tail, leads, vowels, tails, base, count⟩ := hangul_values
  rw [hangulJoin?, if_neg (by omega), if_neg (by omega)]

theorem compose?_dot (b : Char) : compose? '.' b = none := by
  rw [compose?, hangulJoin?_eq_none (.inl (by rw [toNat_dot]; omega))]
  dsimp only
  split
  · rename_i row found
    obtain ⟨mem, low, high⟩ := CodeTable.find?_sound found
    have fit := List.all_eq_true.1 compositions_fit row mem
    simp only [Bool.and_eq_true, decide_eq_true_eq] at fit
    rw [toNat_dot] at low high
    omega
  · rfl

theorem compose?_dot_right (a : Char) : compose? a '.' = none := by
  rw [compose?, hangulJoin?_eq_none (.inr (by rw [toNat_dot]; omega))]
  dsimp only
  split
  · rename_i row found
    obtain ⟨mem, low, high⟩ := CodeTable.find?_sound found
    have fit := List.all_eq_true.1 compositions_fit row mem
    simp only [Bool.and_eq_true, decide_eq_true_eq] at fit
    refine Option.map_eq_none_iff.2 (Option.eq_none_iff_forall_not_mem.2 fun n paired => ?_)
    exact absurd (pairsFit_of_found fit.2 paired).1 (by decide)
  · rfl

end IdentityClient.Idna
