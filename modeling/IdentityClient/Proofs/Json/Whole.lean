import IdentityClient.Proofs.Json.Number
import Mathlib.Data.Int.CharZero
import Mathlib.Tactic.SplitIfs

/-!
# Whole numbers

A literal is read as a whole number exactly if it has neither a fraction nor an exponent and its digits stand for a number
within 64 bits (`NumberLiteral.read_eq_integer_iff`). Everything else is read as a double.
-/

namespace IdentityClient.Json

open NumberLiteral (fractionChars exponentChars)

variable {ds cs rest : List Char}

/-- The number that digits stand for behind others that stand for `start`. -/
def decimal (start : Nat) (ds : List Char) : Nat := ds.foldl (fun n c => n * 10 + digitValue c) start

def Digits.value (d : Digits) : Nat := decimal 0 d.chars

theorem digitValue_le {c : Char} (isDigit : c.isDigit) : digitValue c ≤ 9 := by
  have upper : c.val ≤ 57 := by
    simp only [Char.isDigit, Bool.and_eq_true, decide_eq_true_eq] at isDigit
    exact isDigit.2
  have : c.toNat ≤ 57 := UInt32.le_iff_toNat_le.mp upper
  have : '0'.toNat = 48 := rfl
  rw [digitValue]
  omega

theorem le_decimal (n : Nat) (ds : List Char) : n ≤ decimal n ds := by
  induction ds generalizing n with
  | nil => exact Nat.le_refl n
  | cons d ds ih =>
    have := ih (n * 10 + digitValue d)
    rw [decimal, List.foldl_cons, ← decimal]
    omega

section Floats

variable {negative : Bool} {significand : Nat} {start : Int} {n : Number}

theorem float_of_compose {exponent : Int}
    (h : (match compose negative significand exponent with
      | .error e => .error e
      | .ok x => .ok (.float x, cs)) = Except.ok (n, rest)) : ∃ x, n = .float x := by
  split at h <;> cases h
  exact ⟨_, rfl⟩

theorem float_of_readExponent (h : readExponent negative significand start cs = .ok (n, rest)) : ∃ x, n = .float x := by
  unfold readExponent at h
  split at h
  split at h
  · cases h
  · split at h
    · split at h
      · split at h <;> cases h
        exact ⟨_, rfl⟩
      · exact float_of_compose h
    · cases h

theorem float_of_finishNumber (h : finishNumber negative significand start cs = .ok (n, rest)) : ∃ x, n = .float x := by
  unfold finishNumber at h
  split at h
  · exact float_of_readExponent h
  · exact float_of_readExponent h
  · exact float_of_compose h

theorem float_of_readFraction {places : Nat} (h : readFraction negative start significand places cs = .ok (n, rest)) :
    ∃ x, n = .float x := by
  induction cs generalizing significand places with
  | nil =>
    cases places with
    | zero => cases h
    | succ places => exact float_of_finishNumber h
  | cons c cs ih =>
    rw [readFraction] at h
    split_ifs at h
    · exact float_of_finishNumber h
    · exact ih h
    · exact float_of_finishNumber h

theorem float_of_afterWhole {dropped : Nat} (h : afterWhole negative significand dropped cs = .ok (n, rest)) :
    ∃ x, n = .float x := by
  unfold afterWhole at h
  split at h
  · exact float_of_readFraction h
  · exact float_of_finishNumber h

/-- Digits that no longer fit make a double of the number. -/
theorem float_of_readWhole (digits : ∀ c ∈ ds, c.isDigit) (long : maxWord < decimal significand ds)
    (fits : significand ≤ maxWord) (h : readWhole negative significand (ds ++ cs) = .ok (n, rest)) :
    ∃ x, n = .float x := by
  induction ds generalizing significand with
  | nil => exact absurd long (Nat.not_lt.2 fits)
  | cons d ds ih =>
    obtain ⟨isDigit, digits⟩ := List.forall_mem_cons.1 digits
    rw [List.cons_append, readWhole, if_pos isDigit] at h
    split_ifs at h with now
    · exact float_of_afterWhole h
    · exact ih digits long (Nat.not_lt.1 now) h

end Floats

theorem readWhole_append {negative : Bool} {significand : Nat} (digits : ∀ c ∈ ds, c.isDigit)
    (fits : decimal significand ds ≤ maxWord) :
    readWhole negative significand (ds ++ cs) = readWhole negative (decimal significand ds) cs := by
  induction ds generalizing significand with
  | nil => rfl
  | cons d ds ih =>
    obtain ⟨isDigit, digits⟩ := List.forall_mem_cons.1 digits
    have fits' : decimal (significand * 10 + digitValue d) ds ≤ maxWord := fits
    have := le_decimal (significand * 10 + digitValue d) ds
    rw [List.cons_append, readWhole, if_pos isDigit, if_neg (by omega), ih digits fits']
    rfl

namespace NumberLiteral

/-- Reading a number comes to reading its digits, and then what follows them. -/
theorem exists_digits (n : NumberLiteral) : ∃ start ds, start ≤ maxWord ∧ (∀ c ∈ ds, c.isDigit) ∧
    decimal start ds = n.whole.value ∧ readNumber n.negative n.unsigned =
      readWhole n.negative start (ds ++ (fractionChars n.fraction ++ exponentChars n.exponent)) := by
  obtain ⟨c, ds, chars, isDigit, digits⟩ := n.whole.exists_cons
  have small := digitValue_le isDigit
  have ends := noDigit_fraction n.fraction n.exponent ends_nil
  rw [List.append_nil] at ends
  refine ⟨digitValue c, ds, Nat.le_trans small (by decide), digits, ?_, ?_⟩
  · simp [Digits.value, chars, decimal]
  · rw [NumberLiteral.unsigned, chars]
    refine readNumber_digit n.negative isDigit ?_
    rintro rfl
    exact n.noDigit_of_zero chars ends

theorem tail_eq_nil_iff (f : Option Digits) (e : Option Exponent) :
    fractionChars f ++ exponentChars e = [] ↔ f = none ∧ e = none := by
  cases f <;> cases e <;> simp [fractionChars, exponentChars]

theorem ne_integer_of_float {result : Except Fault (Number × List Char)} {k : Int}
    (floats : ∀ n rest, result = .ok (n, rest) → ∃ x, n = .float x) : result.map (·.1) ≠ .ok (.integer k) := by
  intro h
  cases result with
  | error e => cases h
  | ok r =>
    obtain ⟨x, float⟩ := floats r.1 r.2 rfl
    have integer : r.1 = .integer k := Except.ok.inj h
    rw [integer] at float
    cases float

/-- A literal that is read as a whole number has neither a fraction nor an exponent, and it is the number it stands for. -/
theorem read_eq_integer_iff (n : NumberLiteral) (k : Int) : n.read = .ok (.integer k) ↔
    n.fraction = none ∧ n.exponent = none ∧ n.whole.value ≤ maxWord ∧
      wholeNumber n.negative n.whole.value = .ok (.integer k) := by
  obtain ⟨start, ds, small, digits, value, read⟩ := n.exists_digits
  rw [NumberLiteral.read, read, ← and_assoc, ← tail_eq_nil_iff]
  by_cases fits : n.whole.value ≤ maxWord
  · rw [readWhole_append digits (value ▸ fits), value]
    rcases tail_cases n.fraction n.exponent with tail | ⟨c, cs, tail, starts⟩
    · rw [tail, readWhole_end _ _ ends_nil]
      cases wholeNumber n.negative n.whole.value <;> simp [Except.map, fits]
    · have floats (m : Number) (rest : List Char) :
          afterWhole n.negative n.whole.value 0 (c :: cs) = .ok (m, rest) → ∃ x, m = .float x := float_of_afterWhole
      rw [tail, readWhole_tail _ _ starts]
      simp [ne_integer_of_float floats]
  · have floats (m : Number) (rest : List Char) :
        readWhole n.negative start (ds ++ (fractionChars n.fraction ++ exponentChars n.exponent)) = .ok (m, rest) →
          ∃ x, m = .float x := float_of_readWhole digits (value ▸ Nat.not_le.1 fits) small
    simp [ne_integer_of_float floats, fits]

theorem wordOfNumber_eq_word_iff (n : Number) (k : Nat) : wordOfNumber n = .ok (.word k) ↔ n = .integer k := by
  cases n with
  | float x => simp [wordOfNumber]
  | integer i =>
    by_cases positive : 0 ≤ i
    · simp only [wordOfNumber, if_pos positive, Except.ok.injEq, FieldValue.word.injEq, Number.integer.injEq]
      omega
    · simp only [wordOfNumber, if_neg positive, reduceCtorEq, Number.integer.injEq, false_iff]
      omega

theorem wholeNumber_eq_natCast_iff (negative : Bool) (v k : Nat) :
    wholeNumber negative v = .ok (.integer k) ↔ negative = false ∧ v = k := by
  cases negative with
  | false => simp [wholeNumber]
  | true =>
    simp only [wholeNumber, not_true, if_false, Bool.true_eq_false, false_and, iff_false]
    split_ifs with float
    · cases Binary64.ofNat v <;> simp
    · rw [Except.ok.injEq, Number.integer.injEq]
      omega

/-- The literal is a whole number of 64 bits: digits alone, that stand for the number. -/
def IsWord (n : NumberLiteral) (k : Nat) : Prop :=
  n.negative = false ∧ n.fraction = none ∧ n.exponent = none ∧ n.whole.value = k ∧ k ≤ maxWord

theorem word_eq_iff (n : NumberLiteral) (k : Nat) : n.read.bind wordOfNumber = .ok (.word k) ↔ n.IsWord k := by
  have whole : n.read.bind wordOfNumber = .ok (.word k) ↔ n.read = .ok (.integer k) := by
    cases n.read with
    | error e => simp [Except.bind]
    | ok m => simp [Except.bind, wordOfNumber_eq_word_iff]
  rw [whole, read_eq_integer_iff, wholeNumber_eq_natCast_iff, IsWord]
  constructor
  · rintro ⟨fraction, exponent, fits, negative, rfl⟩
    exact ⟨negative, fraction, exponent, rfl, fits⟩
  · rintro ⟨negative, fraction, exponent, rfl, fits⟩
    exact ⟨fraction, exponent, fits, negative, rfl⟩

theorem exists_word_of_ok {n : NumberLiteral} {x : FieldValue} (h : n.read.bind wordOfNumber = .ok x) :
    ∃ k, x = .word k ∧ n.IsWord k := by
  obtain ⟨k, rfl⟩ : ∃ k, x = .word k := by
    cases read : n.read with
    | error e => rw [read] at h; cases h
    | ok m =>
      rw [read] at h
      change wordOfNumber m = .ok x at h
      cases m with
      | float y => cases h
      | integer i =>
        simp only [wordOfNumber] at h
        split_ifs at h
        cases h
        exact ⟨_, rfl⟩
  exact ⟨k, rfl, (word_eq_iff n k).1 h⟩

end NumberLiteral

end IdentityClient.Json
