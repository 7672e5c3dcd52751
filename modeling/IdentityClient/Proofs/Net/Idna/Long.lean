import IdentityClient.Proofs.Net.Idna.Ascii
import Mathlib.Data.List.Nodup
import Mathlib.Data.List.Perm.Subperm

/-!
# Names whose ASCII form is no name

A label of 1000 characters is still coded, but no code beyond 2000 characters is read. The two limits do not fit: where the
characters of a label are far apart, each of them but the first few takes three digits (`Idna.Punycode.length_encode_le`).
A label of ideographs, which no table names, can be such a one (`Idna.toAscii_ideographs`), and is then a host whose domain
is none.
-/

namespace IdentityClient

variable {c d : Char} {cs : List Char}

namespace Idna

/-! ### Long codes -/

namespace Punycode

variable {bias fuel k m n q s basic : Nat} {w : Writing}

/-- A number from `26 * 36 ^ s` on has more than `s + 1` digits. -/
theorem length_writeNumber (high : 26 * 36 ^ s ≤ q) (enough : s + 1 < fuel) :
    s + 2 ≤ (writeNumber bias fuel k q).length := by
  induction s generalizing fuel k q with
  | zero =>
    obtain ⟨fuel, rfl⟩ : ∃ f, fuel = f + 2 := ⟨fuel - 2, by omega⟩
    have bound := threshold_le k bias
    rw [writeNumber, if_neg (by omega), List.length_cons]
    exact Nat.succ_le_succ (List.length_pos_iff.2 writeNumber_ne_nil)
  | succ s ih =>
    obtain ⟨fuel, rfl⟩ : ∃ f, fuel = f + 1 := ⟨fuel - 1, by omega⟩
    have bound := threshold_le k bias
    have pos := one_le_threshold k bias
    have one : 1 ≤ 36 ^ s := Nat.one_le_pow _ _ (by decide)
    rw [Nat.pow_succ] at high
    rw [writeNumber, if_neg (by omega), List.length_cons]
    refine Nat.succ_le_succ (ih ?_ (by omega))
    generalize threshold k bias = t at *
    rw [Nat.le_div_iff_mul_le (by omega)]
    have less : 26 * 36 ^ s * (36 - t) + 26 * 36 ^ s * t = 26 * 36 ^ s * 36 := by
      rw [← Nat.mul_add, Nat.sub_add_cancel (by omega)]
    have part : 1 * t ≤ 26 * 36 ^ s * t := Nat.mul_le_mul_right t (by omega)
    omega

theorem le_pass (w : Writing) (basic m : Nat) (c : Char) :
    w.out.length ≤ (w.pass basic m c).out.length ∧ w.placed ≤ (w.pass basic m c).placed := by
  rw [Writing.pass]
  split
  · exact ⟨Nat.le_refl _, Nat.le_refl _⟩
  · split
    · simp
    · exact ⟨Nat.le_refl _, Nat.le_refl _⟩

theorem le_passAll (w : Writing) (basic m : Nat) (cs : List Char) :
    w.out.length ≤ (cs.foldl (Writing.pass basic m) w).out.length ∧
      w.placed ≤ (cs.foldl (Writing.pass basic m) w).placed := by
  induction cs generalizing w with
  | nil => exact ⟨Nat.le_refl _, Nat.le_refl _⟩
  | cons c cs ih =>
    have first := le_pass w basic m c
    have rest := ih (w.pass basic m c)
    exact ⟨first.1.trans rest.1, first.2.trans rest.2⟩

/-- A round places the character that it is about, with three digits for a number that is not small. -/
theorem passAll_of_mem (hc : c ∈ cs) : w.placed < (cs.foldl (Writing.pass basic c.toNat) w).placed ∧
    (936 ≤ w.delta → w.out.length + 3 ≤ (cs.foldl (Writing.pass basic c.toNat) w).out.length) := by
  induction cs generalizing w with
  | nil => cases hc
  | cons d cs ih =>
    rw [List.foldl_cons]
    by_cases here : d.toNat = c.toNat
    · obtain ⟨longer, more⟩ := le_passAll (w.pass basic c.toNat d) basic c.toNat cs
      rw [Writing.pass, if_neg (by omega), if_pos here] at longer more ⊢
      refine ⟨more, fun high => ?_⟩
      have digits : 3 ≤ (writeNumber w.bias (w.delta + 1) 36 w.delta).length := length_writeNumber (s := 1) high (by omega)
      simp only [List.length_append, List.length_reverse] at longer
      omega
    · have later : c ∈ cs := (List.mem_cons.1 hc).resolve_left fun same => here (same ▸ rfl)
      have kept : (w.pass basic c.toNat d).out = w.out ∧ (w.pass basic c.toNat d).placed = w.placed ∧
          w.delta ≤ (w.pass basic c.toNat d).delta := by
        simp only [Writing.pass, if_neg here]
        split
        · exact ⟨rfl, rfl, Nat.le_succ _⟩
        · exact ⟨rfl, rfl, Nat.le_refl _⟩
      obtain ⟨more, longer⟩ := ih (w := w.pass basic c.toNat d) later
      rw [kept.1, kept.2.1] at *
      exact ⟨more, fun high => longer (high.trans kept.2.2)⟩

/-- Any two characters of the label are at least 60 apart, and none occurs twice. -/
structure FarApart (cs : List Char) : Prop where
  far : ∀ c ∈ cs, ∀ d ∈ cs, c.toNat < d.toNat → c.toNat + 60 ≤ d.toNat
  nodup : cs.Nodup

theorem length_below_succ_le (nodup : cs.Nodup) (least : ∀ d ∈ cs, n ≤ d.toNat → c.toNat ≤ d.toNat) :
    (below (c.toNat + 1) cs).length ≤ (below n cs).length + 1 := by
  have subset : below (c.toNat + 1) cs ⊆ c :: below n cs := by
    intro d hd
    obtain ⟨hd, low⟩ := List.mem_filter.1 hd
    have low := of_decide_eq_true low
    by_cases earlier : d.toNat < n
    · exact List.mem_cons_of_mem _ (List.mem_filter.2 ⟨hd, decide_eq_true earlier⟩)
    · have value : d.toNat = c.toNat := by
        have := least d hd (by omega)
        omega
      obtain rfl : d = c := by rw [← Char.ofNat_toNat d, value, Char.ofNat_toNat]
      exact List.mem_cons_self
  exact (List.subperm_of_subset (nodup.filter _) subset).length_le

/-- From a round on, three digits are written for each character but the first 15. -/
theorem length_writeCharacters_le (apart : FarApart cs) (next : ∀ c ∈ cs, n ≤ c.toNat → n + 59 ≤ c.toNat)
    (enough : cs.length < (below n cs).length + fuel) : w.out.length + 3 * cs.length ≤
      (writeCharacters basic cs fuel n w).out.length + 3 * (below n cs).length + 3 * (15 - w.placed) := by
  induction fuel generalizing n w with
  | zero =>
    have := length_below_le n cs
    omega
  | succ fuel ih =>
    rw [writeCharacters]
    split
    · rename_i none
      rw [below_eq_self (lt_of_min?_eq_none none)]
      omega
    · rename_i m found
      obtain ⟨⟨c, hc, rfl⟩, le, least⟩ := least_of_min? found
      let start : Writing := { w with delta := w.delta + (c.toNat - n) * (w.placed + 1) }
      let passed := cs.foldl (Writing.pass basic c.toNat) start
      have way := next c hc le
      have some_more : (below n cs).length < (below (c.toNat + 1) cs).length := length_below_lt hc le (Nat.lt_succ_self _)
      have one_more := length_below_succ_le apart.nodup least
      have placed : w.placed < passed.placed := (passAll_of_mem (w := start) hc).1
      have shorter : w.out.length ≤ passed.out.length := (le_passAll start basic c.toNat cs).1
      have longer : 15 ≤ w.placed → w.out.length + 3 ≤ passed.out.length := by
        intro many
        have way : 59 * 16 ≤ (c.toNat - n) * (w.placed + 1) := Nat.mul_le_mul (by omega) (by omega)
        exact (passAll_of_mem (w := start) hc).2 (by dsimp only [start]; omega)
      have rest := ih (n := c.toNat + 1) (w := { passed with delta := passed.delta + 1 })
        (fun d hd higher => by have := apart.far c hc d hd higher; omega) (by omega)
      dsimp only at rest
      show _ ≤ (writeCharacters basic cs fuel (c.toNat + 1) { passed with delta := passed.delta + 1 }).out.length + _ + _
      omega

/-- The code of a label outside ASCII whose characters are far apart. -/
theorem length_encode_le (apart : FarApart cs) (wide : ∀ c ∈ cs, 0x80 + 59 ≤ c.toNat) :
    3 * cs.length ≤ (encode cs).length + 45 := by
  have none_below : below 0x80 cs = [] := by
    refine List.filter_eq_nil_iff.2 fun c hc => ?_
    have := wide c hc
    simp only [decide_eq_true_eq]
    omega
  have zero : (below 0x80 cs).length = 0 := by rw [none_below, List.length_nil]
  let start : Writing := ⟨[], 0, 72, (below 0x80 cs).length⟩
  have whole := @length_writeCharacters_le cs (cs.length + 1) 0x80 (below 0x80 cs).length start apart
    (fun c hc _ => wide c hc) (by omega)
  have code : (writeCharacters (below 0x80 cs).length cs (cs.length + 1) 0x80 start).out.length ≤ (encode cs).length := by
    rw [encode, List.length_append, List.length_reverse]
    exact Nat.le_add_left _ _
  have empty : start.out.length = 0 := rfl
  omega

end Punycode

/-! ### Ideographs -/

/-- A character in the block of ideographs that no table names. -/
def IsIdeograph (c : Char) : Prop := 0x20000 ≤ c.toNat ∧ c.toNat ≤ 0x2A6DF

theorem ideographs_apart : ideographSpan &&& combiningTable.span = 0 ∧ ideographSpan &&& compositionTable.span = 0 ∧
    ideographSpan &&& markTable.span = 0 ∧ ideographSpan &&& directionTable.span = 0 := by
  decide +kernel

namespace IsIdeograph

theorem testBit (h : IsIdeograph c) : ideographSpan.testBit c.toNat = true := testBit_span.2 h

theorem stays (h : IsIdeograph c) : Stays c := testBit_eq_false_of_land changed_apart.2.2.2.2.2.2 h.testBit

theorem decompose_eq (h : IsIdeograph c) : decompose c = [c] := by
  have whole := decompose_of_apart (n := c.toNat) (.inr (by have := h.1; omega))
    (testBit_eq_false_of_land parts_apart.2.2.2.2 h.testBit)
  rwa [Char.ofNat_toNat] at whole

theorem combiningClass_eq (h : IsIdeograph c) : combiningClass c = 0 := by
  rw [combiningClass]
  split
  · rfl
  · rw [CodeTable.find?_eq_none (testBit_eq_false_of_land ideographs_apart.1 h.testBit)]

theorem compose?_eq (h : IsIdeograph c) (d : Char) : compose? c d = none := by
  obtain ⟨lead, vowel, tail, leads, vowels, tails, base, count⟩ := hangul_values
  have apart : hangulJoin? c.toNat d.toNat = none := by
    have low := h.1
    rw [hangulJoin?, if_neg (by omega), if_neg (by omega)]
  simp only [compose?, apart, CodeTable.find?_eq_none (testBit_eq_false_of_land ideographs_apart.2.1 h.testBit)]

theorem isMark_eq (h : IsIdeograph c) : isMark c = false := by
  rw [isMark]
  split
  · rfl
  · rw [CodeTable.contains, CodeTable.find?_eq_none (testBit_eq_false_of_land ideographs_apart.2.2.1 h.testBit)]
    rfl

theorem isRightward_eq (h : IsIdeograph c) : isRightward (direction c) = false := by
  have wide : ¬ c.toNat < 0x80 := by have := h.1; omega
  rw [direction, if_neg wide, CodeTable.find?_eq_none (testBit_eq_false_of_land ideographs_apart.2.2.2 h.testBit)]
  rfl

end IsIdeograph

theorem composeFrom_ideographs {start : Char} (first : IsIdeograph start) (h : ∀ c ∈ cs, IsIdeograph c) :
    composeFrom start [] 0 cs = start :: cs := by
  induction cs generalizing start with
  | nil => rfl
  | cons c cs ih =>
    obtain ⟨here, later⟩ := List.forall_mem_cons.1 h
    rw [composeFrom, first.compose?_eq, ite_self, if_pos here.combiningClass_eq, ih here later]
    rfl

theorem rises_of_starters {k : Nat} (h : ∀ c ∈ cs, combiningClass c = 0) : Rises k cs := by
  induction cs generalizing k with
  | nil => trivial
  | cons c cs ih =>
    obtain ⟨here, later⟩ := List.forall_mem_cons.1 h
    exact ⟨.inl here, ih later⟩

/-- Ideographs are their own normal form. -/
theorem normalize_ideographs (h : ∀ c ∈ cs, IsIdeograph c) : normalize cs = cs := by
  have whole : recompose cs = cs := by
    rw [recompose, flatMap_decompose_of_parts fun c hc => (h c hc).decompose_eq,
      orderMarks_of_rises (rises_of_starters fun c hc => (h c hc).combiningClass_eq), List.reverse_reverse]
    cases cs with
    | nil => rfl
    | cons c cs =>
      obtain ⟨here, later⟩ := List.forall_mem_cons.1 h
      rw [composeAll, if_pos here.combiningClass_eq, composeFrom_ideographs here later]
  rw [normalize]
  split
  · rfl
  · exact whole

theorem joinersFit_ideographs {before : List Char} (h : ∀ c ∈ cs, IsIdeograph c) : joinersFit before cs = true := by
  induction cs generalizing before with
  | nil => rfl
  | cons c cs ih =>
    obtain ⟨here, later⟩ := List.forall_mem_cons.1 h
    have other : c ≠ nonJoiner ∧ c ≠ joiner := by
      constructor <;> rintro rfl <;> exact absurd here (by unfold IsIdeograph; decide)
    unfold joinersFit
    simp [other, ih later]

theorem labelsOf_of_not_mem (dot : '.' ∉ cs) : labelsOf cs = [cs] := by
  rw [labelsOf_eq, List.splitOn_eq_singleton dot]

theorem IsIdeograph.isForbidden_eq (h : IsIdeograph c) : isForbidden c = false := by
  have apart : ∀ d ∈ "%#/:<>?@[\\]^|".toList, c ≠ d := by
    rintro d hd rfl
    have all : ∀ d ∈ "%#/:<>?@[\\]^|".toList, d.toNat < 0x80 := by decide
    have := all c hd
    have := h.1
    omega
  have none_of_them : "%#/:<>?@[\\]^|".toList.contains c = false := by
    rw [← Bool.not_eq_true, List.contains_iff_mem]
    exact fun hc => apart c hc rfl
  have low := h.1
  rw [isForbidden, none_of_them]
  simp only [Bool.or_false, Bool.or_eq_false_iff, decide_eq_false_iff_not, beq_eq_false_iff_ne]
  omega

theorem isAsciiLabel_ideographs (filled : cs ≠ []) (h : ∀ c ∈ cs, IsIdeograph c) : isAsciiLabel cs = false := by
  obtain ⟨c, hc⟩ := List.exists_mem_of_ne_nil cs filled
  refine List.all_eq_false.2 ⟨c, hc, ?_⟩
  have := (h c hc).1
  simp only [decide_eq_true_eq]
  omega

theorem closeLabel_ideographs (filled : cs ≠ []) (h : ∀ c ∈ cs, IsIdeograph c) :
    closeLabel cs = codedMark ++ Punycode.encode cs := if_neg (by simp [isAsciiLabel_ideographs filled h])

theorem dot_not_mem_ideographs (h : ∀ c ∈ cs, IsIdeograph c) : '.' ∉ cs := fun hc => absurd (h '.' hc).1 (by decide)

/-- A label of ideographs is coded if it has no more than 1000 of them. -/
theorem toAscii_ideographs (filled : cs ≠ []) (h : ∀ c ∈ cs, IsIdeograph c) (short : cs.length ≤ maxLabel) :
    toAscii cs = some (closeLabel cs) := by
  have mapped : mapAll cs = some cs := mapAll_of_stays fun c hc => (h c hc).stays
  have normal := normalize_ideographs h
  have one := labelsOf_of_not_mem (dot_not_mem_ideographs h)
  have uncoded : codedMark.isPrefixOf cs = false := by
    refine Bool.eq_false_iff.2 fun coded => ?_
    have mark : 'x' ∈ cs := (List.isPrefixOf_iff_prefix.1 coded).subset (by decide)
    exact absurd (h 'x' mark).1 (by decide)
  have opened : (labelsOf cs).mapM openLabel = some (labelsOf cs) := mapM_openLabel (by simpa [one] using uncoded)
  have proper : isProperLabel cs = true := by
    obtain ⟨first, rest, rfl⟩ := List.exists_cons_of_ne_nil filled
    have start := (h first List.mem_cons_self).isMark_eq
    simp only [isProperLabel, start, joinersFit_ideographs h, short, decide_true, Bool.not_false, Bool.and_self,
      Bool.or_true]
  have leftward : (cs.any fun c => isRightward (direction c)) = false := by
    simpa using fun c hc => (h c hc).isRightward_eq
  have passed : passes (labelsOf cs) = true := by simp [passes, one, proper, leftward]
  refine toAscii_eq_some_iff.2 ⟨cs, labelsOf cs, mapped, ?_, ?_, passed, ?_⟩
  · rw [normal]
    exact fun c hc => (h c hc).isForbidden_eq
  · rw [normal, opened]
  · rw [normal, one]
    rfl

/-- 682 ideographs that are far apart are enough for a code that is not read. -/
theorem codesFit_ideographs (h : ∀ c ∈ cs, IsIdeograph c) (apart : Punycode.FarApart cs) (many : 682 ≤ cs.length) :
    codesFit (closeLabel cs) = false := by
  have filled : cs ≠ [] := List.ne_nil_of_length_pos (by omega)
  have long := Punycode.length_encode_le apart fun c hc => by have := (h c hc).1; omega
  have code : (codedMark ++ Punycode.encode cs).drop 4 = Punycode.encode cs := rfl
  rw [codesFit, labelsOf_of_not_mem (dot_not_mem_closeLabel (dot_not_mem_ideographs h)), List.all_cons, List.all_nil,
    Bool.and_true, closeLabel_ideographs filled h, codedMark_isPrefixOf, code, Bool.not_true, Bool.false_or,
    decide_eq_false_iff_not, maxCoded]
  omega

/-- Ideographs that are far apart, and more of them than a code that is read has room for. -/
def spread : List Char := (List.range 700).map fun k => Char.ofNat (0x20000 + 60 * k)

theorem toNat_ofNat_plane {n : Nat} (plane : 0x10000 ≤ n ∧ n < 0x110000) : (Char.ofNat n).toNat = n := by
  rw [Char.ofNat, dif_pos (.inr ⟨by omega, by omega⟩)]
  rfl

theorem mem_spread (hc : c ∈ spread) : ∃ k < 700, c.toNat = 0x20000 + 60 * k := by
  obtain ⟨k, hk, rfl⟩ := List.mem_map.1 hc
  have small := List.mem_range.1 hk
  exact ⟨k, small, toNat_ofNat_plane ⟨by omega, by omega⟩⟩

theorem isIdeograph_of_mem_spread : ∀ c ∈ spread, IsIdeograph c := by
  intro c hc
  obtain ⟨k, hk, value⟩ := mem_spread hc
  rw [IsIdeograph, value]
  omega

theorem farApart_spread : Punycode.FarApart spread := by
  refine ⟨fun c hc d hd less => ?_, ?_⟩
  · obtain ⟨k, -, value⟩ := mem_spread hc
    obtain ⟨l, -, value'⟩ := mem_spread hd
    omega
  · refine List.Nodup.map_on (fun k hk l hl same => ?_) List.nodup_range
    have values := congrArg Char.toNat same
    have small := List.mem_range.1 hk
    have small' := List.mem_range.1 hl
    rw [toNat_ofNat_plane ⟨by omega, by omega⟩, toNat_ofNat_plane ⟨by omega, by omega⟩] at values
    omega

theorem length_spread : spread.length = 700 := by rw [spread, List.length_map, List.length_range]

end Idna

end IdentityClient
