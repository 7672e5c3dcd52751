import IdentityClient.Proofs.Net.Name
import Mathlib.Data.List.TakeWhile

/-!
# Coded labels read back

Reading follows writing place by place (`Idna.Punycode.Meets`): what is pending on one side is the way that is left on the
other. A number is read as it was written as long as 32 bits hold it, and for labels that are not too long they always do.
Main statement: a label is what its code stands for (`Idna.Punycode.decode_encode`).
-/

namespace IdentityClient.Idna.Punycode

variable {c : Char} {cs input before after rest text : List Char} {bias fuel j k m n q acc weight delta : Nat}

/-! ### Numbers -/

theorem digitValue?_digitChar : ∀ d < 36, digitValue? (digitChar d) = some d := by decide

/-- The bias that is never exceeded: five divisions lead any number of 32 bits below 456. -/
def maxBias : Nat := 213

theorem reduce_le {steps : Nat} (h : delta ≤ 455 * 35 ^ steps) :
    (reduce delta k).1 ≤ 455 ∧ (reduce delta k).2 ≤ k + 36 * steps := by
  induction steps generalizing delta k with
  | zero =>
    rw [reduce, if_neg (by omega)]
    omega
  | succ steps ih =>
    rw [reduce]
    split
    · have smaller : delta / 35 ≤ 455 * 35 ^ steps := Nat.div_le_of_le_mul (by rw [Nat.pow_succ] at h; omega)
      have := ih (k := k + 36) smaller
      omega
    · omega

theorem adapt_le {count : Nat} {first : Bool} (small : delta < limit) : adapt delta count first ≤ maxBias := by
  rw [show limit = 4294967296 from rfl] at small
  have half : (if first then delta / 700 else delta / 2) ≤ delta / 2 := by split <;> omega
  have whole : (if first then delta / 700 else delta / 2) + (if first then delta / 700 else delta / 2) / count ≤
      455 * 35 ^ 5 := by
    have := Nat.div_le_self (if first then delta / 700 else delta / 2) count
    omega
  obtain ⟨low, steps⟩ := reduce_le (k := 0) whole
  rw [adapt, maxBias]
  have skew : 36 * (reduce ((if first then delta / 700 else delta / 2) +
      (if first then delta / 700 else delta / 2) / count) 0).1 / ((reduce ((if first then delta / 700 else delta / 2) +
        (if first then delta / 700 else delta / 2) / count) 0).1 + 38) < 34 := Nat.div_lt_of_lt_mul (by omega)
  omega

/-- Where more digits follow, 32 bits hold the weight of the next. -/
theorem weight_lt (place : k = 36 * (j + 1)) (low : bias ≤ maxBias) (bound : weight ≤ 35 ^ j)
    (more : threshold k bias ≤ q) (small : q * weight < limit) : weight * (36 - threshold k bias) < limit := by
  have pos := one_le_threshold k bias
  by_cases last : bias + 26 ≤ k
  · have top : threshold k bias = 26 := by
      rw [threshold, if_neg (by omega), if_pos last]
    rw [top] at more ⊢
    have := Nat.mul_le_mul_right weight more
    omega
  · have early : j ≤ 5 := by
      rw [maxBias] at low
      omega
    calc weight * (36 - threshold k bias)
        ≤ 35 ^ 5 * 35 := Nat.mul_le_mul (bound.trans (Nat.pow_le_pow_right (by decide) early)) (by omega)
      _ < limit := by decide

theorem readNumber_writeNumber (place : k = 36 * (j + 1)) (low : bias ≤ maxBias) (bound : weight ≤ 35 ^ j)
    (enough : q < fuel) (small : acc + q * weight < limit) :
    readNumber bias k acc weight (writeNumber bias fuel k q ++ rest) = some (acc + q * weight, rest) := by
  induction fuel generalizing j k q acc weight with
  | zero => omega
  | succ fuel ih =>
    have pos := one_le_threshold k bias
    have high := threshold_le k bias
    rw [writeNumber]
    split
    · rename_i final
      rw [List.singleton_append, readNumber, digitValue?_digitChar q (by omega)]
      simp only [if_neg (Nat.not_le.2 small), if_pos final]
    · rename_i more
      have more := Nat.not_lt.1 more
      generalize ht : threshold k bias = t at *
      have split := Nat.mod_add_div (q - t) (36 - t)
      have digit := Nat.mod_lt (q - t) (show 0 < 36 - t by omega)
      generalize (q - t) % (36 - t) = r at *
      generalize (q - t) / (36 - t) = s at *
      have value : acc + (t + r) * weight + s * (weight * (36 - t)) = acc + q * weight := by
        have whole : q = t + r + (36 - t) * s := by omega
        rw [whole]
        ring
      have partial_ : acc + (t + r) * weight < limit := by omega
      have next : weight * (36 - t) < limit := ht ▸ weight_lt place low bound (ht ▸ more) (by omega)
      rw [List.cons_append, readNumber, digitValue?_digitChar (t + r) (by omega)]
      simp only [ht, if_neg (Nat.not_le.2 partial_), if_neg (Nat.not_lt.2 (Nat.le_add_right t r)),
        if_neg (Nat.not_le.2 next)]
      rw [ih (j := j + 1) (by omega) ?_ ?_ ?_, value]
      · rw [Nat.pow_succ]
        exact Nat.mul_le_mul bound (by omega)
      · have : s ≤ (36 - t) * s := Nat.le_mul_of_pos_left s (by omega)
        omega
      · omega

theorem writeNumber_ne_nil : writeNumber bias (fuel + 1) k q ≠ [] := by
  rw [writeNumber]
  split <;> exact List.cons_ne_nil _ _

/-! ### Places -/

/-- Where reading stands: the number before the next one stood at `n` and `i`. -/
structure Reading where
  n : Nat
  i : Nat
  bias : Nat
  out : List Char

/-- From here on `text` is read as what leads to `input`. -/
def Reading.Decodes (r : Reading) (text input : List Char) : Prop :=
  ∀ fuel, text.length ≤ fuel → readCharacters fuel r.n r.i r.bias r.out text = some input

/-- Characters below `n`, in their order. -/
def below (n : Nat) (cs : List Char) : List Char := cs.filter fun c => c.toNat < n

/-- Reading and writing meet where `before` is passed at `m` and `after` is not: the same characters are placed, and what is
pending is the way from the place of the last to here. -/
structure Meets (basic m : Nat) (before after : List Char) (w : Writing) (r : Reading) : Prop where
  out : r.out = below (m + 1) before ++ below m after
  placed : w.placed = r.out.length
  bias : w.bias = r.bias
  low : r.bias ≤ maxBias
  le : r.n ≤ m
  first : (r.i = 0 ∧ w.placed = basic) ∨ (0 < r.i ∧ basic < w.placed)
  pending : w.delta + r.i = (m - r.n) * (r.out.length + 1) + (below (m + 1) before).length

variable {w : Writing} {r : Reading} {basic : Nat}

theorem below_append (xs ys : List Char) : below n (xs ++ ys) = below n xs ++ below n ys := List.filter_append ..

theorem below_cons : below n (c :: cs) = if c.toNat < n then c :: below n cs else below n cs := by
  simp only [below, List.filter_cons, decide_eq_true_eq]

/-- The reading after a character `m` was put at `place`. -/
def Reading.insert (r : Reading) (m place : Nat) (bias : Nat) : Reading :=
  ⟨m, place + 1, bias, r.out.take place ++ Char.ofNat m :: r.out.drop place⟩

theorem isCharacter_toNat (c : Char) : isCharacter c.toNat = true := by
  have valid : c.toNat < 0xD800 ∨ 0xDFFF < c.toNat ∧ c.toNat < 0x110000 := c.valid
  simpa [isCharacter] using valid

/-- Reading one number puts the character that was written to its place. -/
theorem Reading.Decodes.insert {place : Nat} (next : (r.insert c.toNat place
      (adapt delta (r.out.length + 1) (r.i == 0))).Decodes rest input)
    (low : r.bias ≤ maxBias) (le : r.n ≤ c.toNat) (within : place ≤ r.out.length)
    (pending : delta + r.i = (c.toNat - r.n) * (r.out.length + 1) + place) (small : delta + r.i < limit) :
    r.Decodes (writeNumber r.bias (delta + 1) 36 delta ++ rest) input := by
  intro fuel enough
  have read : readNumber r.bias 36 r.i 1 (writeNumber r.bias (delta + 1) 36 delta ++ rest) = some (delta + r.i, rest) := by
    have number : readNumber r.bias 36 r.i 1 (writeNumber r.bias (delta + 1) 36 delta ++ rest) =
        some (r.i + delta * 1, rest) :=
      readNumber_writeNumber (j := 0) rfl low (Nat.le_refl _) (Nat.lt_succ_self delta) (by omega)
    rwa [Nat.mul_one, Nat.add_comm r.i delta] at number
  have filled : 0 < (writeNumber r.bias (delta + 1) 36 delta).length := List.length_pos_iff.2 writeNumber_ne_nil
  have upper : (delta + r.i) / (r.out.length + 1) = c.toNat - r.n := by
    rw [pending, Nat.mul_comm, Nat.mul_add_div (by omega), Nat.div_eq_of_lt (by omega), Nat.add_zero]
  have lower : (delta + r.i) % (r.out.length + 1) = place := by
    rw [pending, Nat.mul_comm, Nat.mul_add_mod, Nat.mod_eq_of_lt (by omega)]
  rw [List.length_append] at enough
  cases fuel with
  | zero => omega
  | succ fuel =>
    cases written : writeNumber r.bias (delta + 1) 36 delta ++ rest with
    | nil => simp [writeNumber_ne_nil] at written
    | cons d ds =>
      rw [readCharacters, ← written, read]
      · simp only [upper, lower, Nat.add_sub_cancel, show r.n + (c.toNat - r.n) = c.toNat by omega, isCharacter_toNat,
          if_true]
        exact next fuel (by omega)
      · simp

theorem length_below_le (n : Nat) (cs : List Char) : (below n cs).length ≤ cs.length := List.length_filter_le ..

theorem Meets.small (meets : Meets basic c.toNat before (c :: after) w r)
    (short : (before ++ c :: after).length ≤ maxLabel) : w.delta + r.i < limit := by
  have placed := congrArg List.length meets.out
  have earlier := length_below_le (c.toNat + 1) before
  have later := length_below_le c.toNat (c :: after)
  rw [List.length_append] at placed short
  have few : r.out.length + 1 ≤ 1001 := by
    rw [maxLabel] at short
    omega
  have character : c.toNat < 0x110000 := by
    have valid : c.toNat < 0xD800 ∨ 0xDFFF < c.toNat ∧ c.toNat < 0x110000 := c.valid
    omega
  have way : (c.toNat - r.n) * (r.out.length + 1) ≤ 0x110000 * 1001 := Nat.mul_le_mul (by omega) few
  rw [meets.pending, show limit = 4294967296 from rfl]
  omega

theorem below_concat_of_lt (lower : c.toNat < n) : below n (before ++ [c]) = below n before ++ [c] := by
  rw [below_append, below_cons, if_pos lower]
  rfl

theorem below_concat_of_le (le : n ≤ c.toNat) : below n (before ++ [c]) = below n before := by
  rw [below_append, below_cons, if_neg (Nat.not_lt.2 le)]
  exact List.append_nil _

/-- A smaller character is placed already, so the way goes on behind it. -/
theorem Meets.pass_lower (meets : Meets basic m before (c :: after) w r) (lower : c.toNat < m) :
    Meets basic m (before ++ [c]) after { w with delta := w.delta + 1 } r where
  out := by
    rw [meets.out, below_concat_of_lt (Nat.lt_add_right 1 lower), below_cons, if_pos lower, List.append_assoc]
    rfl
  placed := meets.placed
  bias := meets.bias
  low := meets.low
  le := meets.le
  first := meets.first
  pending := by
    have pending := meets.pending
    rw [below_concat_of_lt (Nat.lt_add_right 1 lower), List.length_append]
    dsimp only [List.length_cons, List.length_nil]
    omega

theorem Meets.pass_higher (meets : Meets basic m before (c :: after) w r) (higher : m < c.toNat) :
    Meets basic m (before ++ [c]) after w r where
  out := by rw [meets.out, below_concat_of_le higher, below_cons, if_neg (Nat.lt_asymm higher)]
  placed := meets.placed
  bias := meets.bias
  low := meets.low
  le := meets.le
  first := meets.first
  pending := by
    rw [below_concat_of_le higher]
    exact meets.pending

theorem Meets.first_eq (meets : Meets basic m before after w r) : (w.placed == basic) = (r.i == 0) := by
  rcases meets.first with ⟨zero, none⟩ | ⟨pos, more⟩
  · simp [zero, none]
  · simp [Nat.ne_of_gt pos, Nat.ne_of_gt more]

theorem Meets.out_eq (meets : Meets basic c.toNat before (c :: after) w r) :
    r.out = below (c.toNat + 1) before ++ below c.toNat after := by
  rw [meets.out, below_cons, if_neg (Nat.lt_irrefl _)]

/-- The reading after `c` was put behind the characters before it that are placed. -/
def Reading.insertBehind (r : Reading) (before : List Char) (c : Char) (delta : Nat) : Reading :=
  r.insert c.toNat (below (c.toNat + 1) before).length (adapt delta (r.out.length + 1) (r.i == 0))

theorem Meets.out_insertBehind (meets : Meets basic c.toNat before (c :: after) w r) (delta : Nat) :
    (r.insertBehind before c delta).out = below (c.toNat + 1) before ++ c :: below c.toNat after := by
  show r.out.take _ ++ Char.ofNat c.toNat :: r.out.drop _ = _
  rw [meets.out_eq, List.take_left, List.drop_left, Char.ofNat_toNat]

theorem Meets.length_insertBehind (meets : Meets basic c.toNat before (c :: after) w r) (delta : Nat) :
    (r.insertBehind before c delta).out.length = r.out.length + 1 := by
  rw [meets.out_insertBehind, meets.out_eq, List.length_append, List.length_append, List.length_cons, Nat.add_assoc]

/-- The character itself is written as the way to it, and put to the end of that way. -/
theorem Meets.pass_here (meets : Meets basic c.toNat before (c :: after) w r) (small : w.delta + r.i < limit) :
    Meets basic c.toNat (before ++ [c]) after
      { out := (writeNumber w.bias (w.delta + 1) 36 w.delta).reverse ++ w.out
        delta := 0
        bias := adapt w.delta (w.placed + 1) (w.placed == basic)
        placed := w.placed + 1 }
      (r.insertBehind before c w.delta) where
  out := by
    rw [meets.out_insertBehind, below_concat_of_lt (Nat.lt_add_one _), List.append_assoc]
    rfl
  placed := by rw [meets.length_insertBehind, meets.placed]
  bias := by
    rw [meets.first_eq, meets.placed]
    rfl
  low := adapt_le (Nat.lt_of_le_of_lt (Nat.le_add_right _ _) small)
  le := Nat.le_refl _
  first := by
    right
    refine ⟨Nat.succ_pos _, ?_⟩
    rcases meets.first with ⟨-, none⟩ | ⟨-, more⟩
    · exact Nat.lt_succ_of_le (Nat.le_of_eq none.symm)
    · exact Nat.lt_succ_of_lt more
  pending := by
    show 0 + ((below (c.toNat + 1) before).length + 1) = (c.toNat - c.toNat) * _ + _
    rw [below_concat_of_lt (Nat.lt_add_one _), List.length_append, Nat.sub_self, Nat.zero_mul]
    rfl

/-- One character is passed: either nothing is written, or what is written leads reading past the character. -/
theorem Meets.pass (meets : Meets basic m before (c :: after) w r) (input : List Char)
    (short : (before ++ c :: after).length ≤ maxLabel) :
    ∃ text r', (w.pass basic m c).out = text.reverse ++ w.out ∧ Meets basic m (before ++ [c]) after (w.pass basic m c) r' ∧
      ∀ rest, r'.Decodes rest input → r.Decodes (text ++ rest) input := by
  rcases Nat.lt_trichotomy c.toNat m with lower | rfl | higher
  · rw [Writing.pass, if_pos lower]
    exact ⟨[], r, rfl, meets.pass_lower lower, fun _ h => h⟩
  · have small := meets.small short
    have within : (below (c.toNat + 1) before).length ≤ r.out.length := by
      rw [meets.out_eq, List.length_append]
      exact Nat.le_add_right _ _
    rw [Writing.pass, if_neg (Nat.lt_irrefl _), if_pos rfl]
    refine ⟨writeNumber w.bias (w.delta + 1) 36 w.delta, _, rfl, meets.pass_here small, fun rest next => ?_⟩
    rw [meets.bias]
    exact next.insert meets.low meets.le within meets.pending small
  · rw [Writing.pass, if_neg (Nat.lt_asymm higher), if_neg (Nat.ne_of_gt higher)]
    exact ⟨[], r, rfl, meets.pass_higher higher, fun _ h => h⟩

theorem Meets.passAll (meets : Meets basic m before after w r) (input : List Char)
    (short : (before ++ after).length ≤ maxLabel) :
    ∃ text r', (after.foldl (Writing.pass basic m) w).out = text.reverse ++ w.out ∧
      Meets basic m (before ++ after) [] (after.foldl (Writing.pass basic m) w) r' ∧
        ∀ rest, r'.Decodes rest input → r.Decodes (text ++ rest) input := by
  induction after generalizing before w r with
  | nil => exact ⟨[], r, rfl, by rwa [List.append_nil], fun _ h => h⟩
  | cons c after ih =>
    obtain ⟨text, r', written, meets', decodes⟩ := meets.pass input short
    obtain ⟨text', r'', written', meets'', decodes'⟩ := ih meets' (by rwa [List.append_assoc])
    refine ⟨text ++ text', r'', ?_, ?_, fun rest h => ?_⟩
    · rw [List.foldl_cons, written', written, List.reverse_append, List.append_assoc]
    · rwa [List.append_assoc] at meets''
    · rw [List.append_assoc]
      exact decodes _ (decodes' rest h)

theorem below_eq_self (h : ∀ c ∈ cs, c.toNat < n) : below n cs = cs :=
  List.filter_eq_self.2 fun c hc => decide_eq_true (h c hc)

theorem below_below {k : Nat} (le : n ≤ k) (cs : List Char) : below n (below k cs) = below n cs := by
  rw [below, below, below, List.filter_filter]
  refine List.filter_congr fun c _ => ?_
  rw [Bool.eq_iff_iff]
  simp only [Bool.and_eq_true, decide_eq_true_eq]
  omega

/-- A character from `n` on, but below `k`, makes the difference. -/
theorem length_below_lt {k : Nat} (hc : c ∈ cs) (low : n ≤ c.toNat) (high : c.toNat < k) :
    (below n cs).length < (below k cs).length := by
  rw [← below_below (n := n) (k := k) (by omega) cs]
  refine List.length_filter_lt_length_iff_exists.2 ⟨c, List.mem_filter.2 ⟨hc, decide_eq_true high⟩, ?_⟩
  simpa using low

/-- The least value from `n` on. -/
theorem least_of_min? {m : Nat} (h : (cs.filterMap fun c => if n ≤ c.toNat then some c.toNat else none).min? = some m) :
    (∃ c ∈ cs, c.toNat = m) ∧ n ≤ m ∧ ∀ c ∈ cs, n ≤ c.toNat → m ≤ c.toNat := by
  obtain ⟨mem, least⟩ := List.min?_eq_some_iff.1 h
  obtain ⟨c, hc, value⟩ := List.mem_filterMap.1 mem
  split at value
  · cases value
    refine ⟨⟨c, hc, rfl⟩, ‹_›, fun d hd le => least _ ?_⟩
    exact List.mem_filterMap.2 ⟨d, hd, if_pos le⟩
  · cases value

theorem lt_of_min?_eq_none (h : (cs.filterMap fun c => if n ≤ c.toNat then some c.toNat else none).min? = none) :
    ∀ c ∈ cs, c.toNat < n := by
  intro c hc
  have none := List.filterMap_eq_nil_iff.1 (List.min?_eq_none_iff.1 h) c hc
  exact Nat.not_le.1 fun le => by simp [le] at none

theorem below_of_least (le : n ≤ m) (least : ∀ c ∈ cs, n ≤ c.toNat → m ≤ c.toNat) : below m cs = below n cs := by
  refine List.filter_congr fun c hc => ?_
  have := least c hc
  rw [Bool.eq_iff_iff, decide_eq_true_eq, decide_eq_true_eq]
  omega

/-- Before a round, the way is taken to the least character that is left. -/
theorem Meets.start_round (meets : Meets basic n [] input w r) (le : n ≤ m) (same : below m input = below n input) :
    Meets basic m [] input { w with delta := w.delta + (m - n) * (w.placed + 1) } r where
  out := by
    rw [meets.out, same]
    rfl
  placed := meets.placed
  bias := meets.bias
  low := meets.low
  le := meets.le.trans le
  first := meets.first
  pending := by
    have pending := meets.pending
    have way : (m - r.n) * (r.out.length + 1) = (m - n) * (r.out.length + 1) + (n - r.n) * (r.out.length + 1) := by
      rw [← Nat.add_mul, Nat.sub_add_sub_cancel le meets.le]
    have none_passed (k : Nat) : (below k []).length = 0 := rfl
    dsimp only
    rw [none_passed] at pending ⊢
    rw [meets.placed, way]
    omega

/-- After a round, the way goes on from the start of the label. -/
theorem Meets.next_round (meets : Meets basic m input [] w r) :
    Meets basic (m + 1) [] input { w with delta := w.delta + 1 } r where
  out := meets.out.trans (List.append_nil _)
  placed := meets.placed
  bias := meets.bias
  low := meets.low
  le := Nat.le_succ_of_le meets.le
  first := meets.first
  pending := by
    have pending := meets.pending
    have out : r.out = below (m + 1) input := meets.out.trans (List.append_nil _)
    have way : (m + 1 - r.n) * (r.out.length + 1) = (m - r.n) * (r.out.length + 1) + (r.out.length + 1) := by
      rw [Nat.succ_sub meets.le, Nat.succ_mul]
    have none_passed : (below (m + 1 + 1) []).length = 0 := rfl
    rw [← out] at pending
    rw [way, none_passed]
    dsimp only
    omega

/-- From a round on, what is written is read as the input. -/
theorem Meets.writeCharacters (meets : Meets basic n [] input w r)
    (enough : input.length < (below n input).length + fuel) (short : input.length ≤ maxLabel) :
    ∃ text, (writeCharacters basic input fuel n w).out = text.reverse ++ w.out ∧ r.Decodes text input := by
  induction fuel generalizing n w r with
  | zero =>
    have := length_below_le n input
    omega
  | succ fuel ih =>
    rw [Punycode.writeCharacters]
    split
    · rename_i none
      refine ⟨[], rfl, fun fuel _ => ?_⟩
      rw [readCharacters.eq_1, meets.out, below_eq_self (lt_of_min?_eq_none none)]
      rfl
    · rename_i m least
      obtain ⟨⟨c, hc, value⟩, le, least⟩ := least_of_min? least
      have start := meets.start_round le (below_of_least le least)
      obtain ⟨text, r', written, passed, decodes⟩ := start.passAll input short
      have more := length_below_lt hc (n := n) (k := m + 1) (by omega) (by omega)
      obtain ⟨text', written', decodes'⟩ := ih passed.next_round (by omega)
      refine ⟨text ++ text', ?_, decodes _ decodes'⟩
      rw [written', written, List.reverse_append, List.append_assoc]

/-! ### Whole labels -/

/-- The coded part behind the last hyphen. -/
theorem splitBasic_append {first coded : List Char} (hyphens : '-' ∉ coded) :
    splitBasic (first ++ (if first.isEmpty then [] else ['-']) ++ coded) = (first, coded) := by
  have digits : ∀ c ∈ coded.reverse, (c != '-') = true := by
    intro c hc
    rw [bne_iff_ne]
    rintro rfl
    exact hyphens (List.mem_reverse.1 hc)
  cases first with
  | nil =>
    have all : coded.reverse.takeWhile (· != '-') = coded.reverse := List.takeWhile_eq_self_iff.2 digits
    simp [splitBasic, all]
  | cons c first =>
    have behind : ((c :: first) ++ ['-'] ++ coded).reverse.takeWhile (· != '-') = coded.reverse := by
      rw [List.reverse_append, List.reverse_append, List.takeWhile_append_of_pos digits]
      simp
    have before : ((c :: first) ++ ['-'] ++ coded).take (((c :: first) ++ ['-'] ++ coded).length - coded.length - 1) =
        c :: first := by
      have length : ((c :: first) ++ ['-'] ++ coded).length - coded.length - 1 = (c :: first).length := by
        simp only [List.length_append, List.length_cons, List.length_nil]
        omega
      rw [length, List.append_assoc, List.take_left]
    simp only [splitBasic, List.isEmpty_cons, Bool.false_eq_true, if_false, behind, List.reverse_reverse, before]

theorem hyphen_not_digit (h : IsDigit '-') : False := by
  obtain ⟨d, hd, same⟩ := h
  have all : ∀ d < 36, '-' ≠ digitChar d := by decide
  exact all d hd same

/-- A code: the ASCII characters of the label, and behind a hyphen what is read as the whole label. -/
theorem exists_code (short : input.length ≤ maxLabel) : ∃ text, '-' ∉ text ∧
    encode input = below 0x80 input ++ (if (below 0x80 input).isEmpty then [] else ['-']) ++ text ∧
      Reading.Decodes ⟨0x80, 0, 72, below 0x80 input⟩ text input := by
  have start : Meets (below 0x80 input).length 0x80 [] input ⟨[], 0, 72, (below 0x80 input).length⟩
      ⟨0x80, 0, 72, below 0x80 input⟩ :=
    ⟨rfl, rfl, rfl, show 72 ≤ maxBias by decide, Nat.le_refl _, .inl ⟨rfl, rfl⟩,
      show 0 + 0 = (0x80 - 0x80) * _ + 0 by simp⟩
  obtain ⟨text, written, decodes⟩ := start.writeCharacters (Nat.lt_add_left _ (Nat.lt_succ_self input.length)) short
  have out : (writeCharacters (below 0x80 input).length input (input.length + 1) 0x80
      ⟨[], 0, 72, (below 0x80 input).length⟩).out.reverse = text := by
    rw [written, List.append_nil, List.reverse_reverse]
  refine ⟨text, ?_, by rw [← out]; rfl, decodes⟩
  rw [← out]
  exact fun h => hyphen_not_digit (mem_writeCharacters (by simp) (List.mem_reverse.1 h))

/-- A label is what its code stands for. -/
theorem decode_encode (short : input.length ≤ maxLabel) : decode (encode input) = some input := by
  obtain ⟨text, hyphens, code, decodes⟩ := exists_code short
  rw [decode, code, splitBasic_append hyphens]
  exact decodes text.length (Nat.le_refl _)

/-- The code of a label outside ASCII does not end in a hyphen. -/
theorem getLast?_encode (short : input.length ≤ maxLabel) (wide : c ∈ input) (hc : ¬ c.toNat < 0x80) :
    (encode input).getLast? ≠ some '-' := by
  obtain ⟨text, hyphens, code, decodes⟩ := exists_code short
  have filled : text ≠ [] := by
    rintro rfl
    have same : below 0x80 input = input := Option.some.inj (decodes 0 (Nat.le_refl _))
    rw [← same] at wide
    exact hc (of_decide_eq_true (List.mem_filter.1 wide).2)
  rw [code, List.getLast?_append, List.getLast?_eq_some_getLast filled, Option.some_or]
  exact fun last => hyphens (Option.some.inj last ▸ List.getLast_mem filled)

end IdentityClient.Idna.Punycode
