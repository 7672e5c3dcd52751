import IdentityClient.Net.Url.Idna.Name
import IdentityClient.Proofs.Text.CodeTable

/-!
# Characters that mapping leaves as they are

What the mapping of international names gives is not mapped again (`Idna.mapAll_of_mapAll`), nor is it after it has been
decomposed and composed (`Idna.Stays.decompose`, `Idna.Stays.compose`). The tables take part in this only through sets of
code points: none that comes out of them is one of those that mapping changes (`Idna.changed_apart`).
-/

namespace IdentityClient.Idna

variable {a b c r : Char} {cs ds : List Char} {row : CodeRange} {n : Nat}

/-! ### Sets of code points -/

def span (first last : Nat) : Nat := CodeRange.spanBits ⟨first, last, []⟩

/-- Capital letters, and the code points that three tables name. -/
def namedIn (mapping ignored refused : CodeTable) : Nat :=
  span 0x41 0x5A ||| (mapping.span ||| (ignored.span ||| refused.span))

/-- The code points that mapping changes, drops or refuses. -/
def changed : Nat := namedIn mappingTable ignoredTable refusedTable

/-- Hangul syllables, and the letters that they consist of. -/
def hangulSpan : Nat := span 0x1100 0x1112 ||| (span 0x1161 0x1175 ||| (span 0x11A8 0x11C2 ||| span 0xAC00 0xD7A3))

/-- Ideographs that no table names. -/
def ideographSpan : Nat := span 0x20000 0x2A6DF

/-- What a row of decompositions gives, unless mapping changes its one character before. -/
def keptParts (row : CodeRange) : Nat :=
  if row.first = row.last ∧ changed &&& row.spanBits ≠ 0 then 0 else row.dataBits

/-- The results of the pairs `second, result, …` whose second character mapping does not change. -/
def keptResults : List Nat → Nat
  | second :: result :: rest =>
    if changed &&& 1 <<< second = 0 then 1 <<< result ||| keptResults rest else keptResults rest
  | _ => 0

/-- What a row of compositions gives, unless mapping changes its one character before. -/
def keptPairs (row : CodeRange) : Nat :=
  if row.first = row.last ∧ changed &&& row.spanBits ≠ 0 then 0 else keptResults row.data

/-- The tables ascend, and nothing that comes out of mapping, decomposing and composing is changed by mapping. -/
theorem changed_apart : (mappingTable.ascends 0 0x110000 = true ∧ ignoredTable.ascends 0 0x110000 = true ∧
    refusedTable.ascends 0 0x110000 = true) ∧ (span 0 0x40 ||| span 0x5B 0x7F) &&& changed = 0 ∧
      hangulSpan &&& changed = 0 ∧ mappingTable.bits CodeRange.dataBits &&& changed = 0 ∧
        decompositionTable.bits keptParts &&& changed = 0 ∧ compositionTable.bits keptPairs &&& changed = 0 ∧
          ideographSpan &&& changed = 0 := by
  decide +kernel

theorem testBit_span {first last : Nat} : (span first last).testBit n = true ↔ first ≤ n ∧ n ≤ last :=
  CodeRange.testBit_spanBits

theorem testBit_hangulSpan : hangulSpan.testBit n = true ↔ (0x1100 ≤ n ∧ n ≤ 0x1112) ∨
    (0x1161 ≤ n ∧ n ≤ 0x1175) ∨ (0x11A8 ≤ n ∧ n ≤ 0x11C2) ∨ (0xAC00 ≤ n ∧ n ≤ 0xD7A3) := by
  simp only [hangulSpan, Nat.testBit_or, Bool.or_eq_true, testBit_span]

-- This is for any three tables: where `namedIn` is opened for given ones, the kernel computes it.
theorem testBit_namedIn {mapping ignored refused : CodeTable} : (namedIn mapping ignored refused).testBit n = false ↔
    ¬ (0x41 ≤ n ∧ n ≤ 0x5A) ∧ mapping.span.testBit n = false ∧ ignored.span.testBit n = false ∧
      refused.span.testBit n = false := by
  simp only [namedIn, Nat.testBit_or, Bool.or_eq_false_iff]
  rw [← Bool.not_eq_true ((span 0x41 0x5A).testBit n), testBit_span]

/-! ### Characters that stay -/

/-- Mapping leaves the character as it is. -/
def Stays (c : Char) : Prop := changed.testBit c.toNat = false

theorem stays_iff : Stays c ↔ ¬ (0x41 ≤ c.toNat ∧ c.toNat ≤ 0x5A) ∧ mappingTable.find? c.toNat = none ∧
    ignoredTable.find? c.toNat = none ∧ refusedTable.find? c.toNat = none := by
  obtain ⟨⟨mapping, ignored, refused⟩, -⟩ := changed_apart
  rw [Stays, changed, testBit_namedIn]
  constructor
  · rintro ⟨upper, m, i, r⟩
    exact ⟨upper, CodeTable.find?_eq_none m, CodeTable.find?_eq_none i, CodeTable.find?_eq_none r⟩
  · rintro ⟨upper, m, i, r⟩
    exact ⟨upper, CodeTable.testBit_span_eq_false mapping m, CodeTable.testBit_span_eq_false ignored i,
      CodeTable.testBit_span_eq_false refused r⟩

theorem Stays.of_ascii (h : c.toNat ≤ 0x40 ∨ (0x5B ≤ c.toNat ∧ c.toNat ≤ 0x7F)) : Stays c := by
  refine testBit_eq_false_of_land changed_apart.2.1 ?_
  rw [Nat.testBit_or, Bool.or_eq_true, testBit_span, testBit_span]
  omega

/-- The character of a code point in a set that mapping leaves alone. A number that is no code point stands for zero. -/
theorem Stays.of_bits {set : Nat} (apart : set &&& changed = 0) (h : set.testBit n = true) : Stays (Char.ofNat n) := by
  by_cases valid : n.isValidChar
  · have same : (Char.ofNat n).toNat = n := by
      rw [Char.ofNat, dif_pos valid]
      rfl
    rw [Stays, same]
    exact testBit_eq_false_of_land apart h
  · have zero : (Char.ofNat n).toNat = 0 := by
      rw [Char.ofNat, dif_neg valid]
      rfl
    exact .of_ascii (.inl (by omega))

theorem Stays.of_hangul (h : hangulSpan.testBit n = true) : Stays (Char.ofNat n) := .of_bits changed_apart.2.2.1 h

theorem changed_land_eq_zero (h : Stays c) (one : row.first = row.last) (covers : row.Covers c.toNat) :
    changed &&& row.spanBits = 0 := by
  refine Nat.eq_of_testBit_eq fun n => ?_
  rw [Nat.testBit_and, Nat.zero_testBit]
  by_cases at_n : row.spanBits.testBit n = true
  · obtain ⟨low, high⟩ := CodeRange.testBit_spanBits.1 at_n
    obtain ⟨low', high'⟩ := covers
    obtain rfl : n = c.toNat := by omega
    rw [show changed.testBit c.toNat = false from h, Bool.false_and]
  · rw [Bool.not_eq_true] at at_n
    rw [at_n, Bool.and_false]

/-! ### Mapping -/

theorem toLower_of_ascii (ascii : c.toNat < 0x80) : (¬ (0x41 ≤ c.toNat ∧ c.toNat ≤ 0x5A) → c.toLower = c) ∧
    (c.toLower.toNat ≤ 0x40 ∨ (0x5B ≤ c.toLower.toNat ∧ c.toLower.toNat ≤ 0x7F)) := by
  have all : ∀ n < 0x80, (¬ (0x41 ≤ n ∧ n ≤ 0x5A) → (Char.ofNat n).toLower = Char.ofNat n) ∧
      ((Char.ofNat n).toLower.toNat ≤ 0x40 ∨
        (0x5B ≤ (Char.ofNat n).toLower.toNat ∧ (Char.ofNat n).toLower.toNat ≤ 0x7F)) := by decide
  have here := all c.toNat ascii
  rwa [Char.ofNat_toNat] at here

theorem Stays.mapChar_eq (h : Stays c) : mapChar c = some [c] := by
  obtain ⟨upper, mapping, ignored, refused⟩ := stays_iff.1 h
  rw [mapChar]
  split
  · rename_i ascii
    rw [(toLower_of_ascii ascii).1 upper]
  · simp [mapping, CodeTable.contains, ignored, refused]

theorem stays_of_mapChar (h : mapChar c = some ds) : ∀ d ∈ ds, Stays d := by
  rw [mapChar] at h
  split at h
  · rename_i ascii
    cases h
    intro d hd
    obtain rfl := List.mem_singleton.1 hd
    exact .of_ascii (toLower_of_ascii ascii).2
  · rename_i wide
    split at h
    · rename_i row found
      cases h
      intro d hd
      obtain ⟨n, hn, rfl⟩ := List.mem_map.1 hd
      exact .of_bits changed_apart.2.2.2.1
        (CodeTable.testBit_bits.2 ⟨row, (CodeTable.find?_sound found).1, CodeRange.testBit_dataBits.2 hn⟩)
    · rename_i mapping
      split at h
      · cases h
        simp
      · rename_i ignored
        split at h
        · cases h
        · rename_i refused
          cases h
          intro d hd
          obtain rfl := List.mem_singleton.1 hd
          simp only [CodeTable.contains, Bool.not_eq_true, Option.isSome_eq_false_iff,
            Option.isNone_iff_eq_none] at ignored refused
          exact stays_iff.2 ⟨by omega, mapping, ignored, refused⟩

theorem mapAll_of_stays (h : ∀ c ∈ cs, Stays c) : mapAll cs = some cs := by
  induction cs with
  | nil => rfl
  | cons c cs ih =>
    have first := (h c List.mem_cons_self).mapChar_eq
    simp [mapAll, first, ih fun d hd => h d (List.mem_cons_of_mem _ hd)]

theorem stays_of_mapAll (h : mapAll cs = some ds) : ∀ d ∈ ds, Stays d := by
  induction cs generalizing ds with
  | nil =>
    cases h
    simp
  | cons c cs ih =>
    rw [mapAll] at h
    obtain ⟨first, hf, h⟩ := Option.bind_eq_some_iff.1 h
    obtain ⟨rest, hr, h⟩ := Option.bind_eq_some_iff.1 h
    cases h
    intro d hd
    rcases List.mem_append.1 hd with hd | hd
    · exact stays_of_mapChar hf d hd
    · exact ih hr d hd

/-- Mapping twice is mapping once. -/
theorem mapAll_of_mapAll (h : mapAll cs = some ds) : mapAll ds = some ds := mapAll_of_stays (stays_of_mapAll h)

/-! ### Decomposing and composing -/

theorem hangul_values : leadBase = 0x1100 ∧ vowelBase = 0x1161 ∧ tailBase = 0x11A7 ∧ leadCount = 19 ∧ vowelCount = 21 ∧
    tailCount = 28 ∧ hangulBase = 0xAC00 ∧ hangulCount = 11172 := by decide

theorem testBit_hangulParts {d : Nat} (syllable : hangulBase ≤ n ∧ n < hangulBase + hangulCount)
    (hd : d ∈ hangulParts n) : hangulSpan.testBit d = true := by
  obtain ⟨lead, vowel, tail, -, vowels, tails, base, count⟩ := hangul_values
  rw [hangulParts, vowels, tails] at hd
  rw [testBit_hangulSpan]
  split at hd
  all_goals
    simp only [List.mem_cons, List.not_mem_nil, or_false] at hd
    omega

theorem testBit_hangulJoin {m k : Nat} (h : hangulJoin? m n = some k) : hangulSpan.testBit k = true := by
  obtain ⟨lead, vowel, tail, leads, vowels, tails, base, count⟩ := hangul_values
  rw [hangulJoin?] at h
  rw [testBit_hangulSpan]
  split at h
  · obtain rfl := Option.some.inj h
    rw [vowels, tails]
    omega
  · split at h
    · rename_i syllable
      rw [tails] at syllable
      obtain rfl := Option.some.inj h
      omega
    · cases h

theorem Stays.decompose (h : Stays c) : ∀ d ∈ decompose c, Stays d := by
  intro d hd
  unfold Idna.decompose at hd
  dsimp only at hd
  split at hd
  · obtain rfl := List.mem_singleton.1 hd
    exact h
  · split at hd
    · rename_i syllable
      obtain ⟨n, hn, rfl⟩ := List.mem_map.1 hd
      exact .of_hangul (testBit_hangulParts syllable hn)
    · split at hd
      · rename_i row found
        obtain ⟨n, hn, rfl⟩ := List.mem_map.1 hd
        obtain ⟨mem, covers⟩ := CodeTable.find?_sound found
        have kept : (keptParts row).testBit n = true := by
          rw [keptParts, if_neg fun changes => changes.2 (changed_land_eq_zero h changes.1 covers)]
          exact CodeRange.testBit_dataBits.2 hn
        exact .of_bits changed_apart.2.2.2.2.1 (CodeTable.testBit_bits.2 ⟨row, mem, kept⟩)
      · obtain rfl := List.mem_singleton.1 hd
        exact h

theorem testBit_keptResults {data : List Nat} (h : Stays b) (found : pairResult? b.toNat data = some n) :
    (keptResults data).testBit n = true := by
  induction data using pairResult?.induct (b := b.toNat) with
  | case1 result rest =>
    have kept : changed &&& 1 <<< b.toNat = 0 := by
      rw [Nat.one_shiftLeft, Nat.and_two_pow, show changed.testBit b.toNat = false from h]
      simp
    rw [pairResult?, if_pos rfl] at found
    obtain rfl := Option.some.inj found
    rw [keptResults, if_pos kept, Nat.testBit_or, Nat.one_shiftLeft, Nat.testBit_two_pow_self, Bool.true_or]
  | case2 second result rest other ih =>
    rw [pairResult?, if_neg other] at found
    rw [keptResults]
    split
    · rw [Nat.testBit_or, ih found, Bool.or_true]
    · exact ih found
  | case3 data other =>
    unfold pairResult? at found
    split at found
    · exact absurd rfl (other _ _ _)
    · cases found

theorem Stays.compose (ha : Stays a) (hb : Stays b) (joined : compose? a b = some r) : Stays r := by
  rw [compose?] at joined
  split at joined
  · rename_i n found
    obtain rfl := Option.some.inj joined
    exact .of_hangul (testBit_hangulJoin found)
  · split at joined
    · rename_i row found
      obtain ⟨n, hn, rfl⟩ := Option.map_eq_some_iff.1 joined
      obtain ⟨mem, covers⟩ := CodeTable.find?_sound found
      have kept : (keptPairs row).testBit n = true := by
        rw [keptPairs, if_neg fun changes => changes.2 (changed_land_eq_zero ha changes.1 covers)]
        exact testBit_keptResults hb hn
      exact .of_bits changed_apart.2.2.2.2.2.1 (CodeTable.testBit_bits.2 ⟨row, mem, kept⟩)
    · cases joined

end IdentityClient.Idna
