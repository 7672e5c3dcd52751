import IdentityClient.Proofs.Json.Document

/-!
# Reading and passing numbers

A number that is followed by something that cannot continue it (`Ends`) is read whole, and what is read does not depend
on what follows (`readNumber_unsigned`); it is passed over whole, too (`skipNumber_unsigned`).
-/

namespace IdentityClient.Json

open NumberLiteral (fractionChars exponentChars)

variable {ds cs rest : List Char}

/-- No digit stands here. -/
def NoDigit (cs : List Char) : Prop := ∀ c ∈ cs.head?, c.isDigit = false

/-- Nothing that could belong to a number stands here. -/
def Ends (cs : List Char) : Prop := ∀ c ∈ cs.head?, c.isDigit = false ∧ c ≠ '.' ∧ c ≠ 'e' ∧ c ≠ 'E'

theorem Ends.noDigit (h : Ends cs) : NoDigit cs := fun c hc => (h c hc).1

theorem ends_nil : Ends [] := by simp [Ends]

theorem ends_cons {c : Char} (h : c.isDigit = false ∧ c ≠ '.' ∧ c ≠ 'e' ∧ c ≠ 'E') : Ends (c :: cs) := by
  simpa [Ends] using h

theorem noDigit_cons {c : Char} (h : c.isDigit = false) : NoDigit (c :: cs) := by simpa [NoDigit] using h

theorem dropWhile_of_noDigit (h : NoDigit cs) : cs.dropWhile Char.isDigit = cs := by
  cases cs with
  | nil => rfl
  | cons c cs => simp [h c rfl]

theorem dropDigits_append (digits : ∀ c ∈ ds, c.isDigit) (h : NoDigit rest) :
    (ds ++ rest).dropWhile Char.isDigit = rest := by
  rw [List.dropWhile_append_of_pos digits, dropWhile_of_noDigit h]

theorem Digits.exists_cons (d : Digits) : ∃ c ds, d.chars = c :: ds ∧ c.isDigit ∧ ∀ c ∈ ds, c.isDigit := by
  obtain ⟨chars, nonempty, digits⟩ := d
  cases chars with
  | nil => exact absurd rfl nonempty
  | cons c ds => exact ⟨c, ds, rfl, digits c List.mem_cons_self, fun c hc => digits c (List.mem_cons_of_mem _ hc)⟩

theorem ne_of_isDigit {c d : Char} (isDigit : c.isDigit) (h : d.isDigit = false) : c ≠ d := by
  rintro rfl
  rw [h] at isDigit
  cases isDigit

theorem noDigit_exponent (e : Option Exponent) (h : Ends rest) : NoDigit (exponentChars e ++ rest) := by
  cases e with
  | none => exact h.noDigit
  | some e =>
    refine noDigit_cons ?_
    rcases e.marks with mark | mark <;> rw [mark] <;> rfl

theorem noDigit_fraction (f : Option Digits) (e : Option Exponent) (h : Ends rest) :
    NoDigit (fractionChars f ++ (exponentChars e ++ rest)) := by
  cases f with
  | none => exact noDigit_exponent e h
  | some f => exact noDigit_cons rfl

/-! ### Passing -/

theorem skipExponent_digit {c : Char} (isDigit : c.isDigit) :
    skipExponent (c :: cs) = .ok (cs.dropWhile Char.isDigit) := by
  have plus : c ≠ '+' := ne_of_isDigit isDigit rfl
  have minus : c ≠ '-' := ne_of_isDigit isDigit rfl
  unfold skipExponent
  split
  · rename_i same; exact absurd (List.cons.inj same).1 plus
  · rename_i same; exact absurd (List.cons.inj same).1 minus
  · exact if_pos isDigit

theorem skipExponent_chars (e : Exponent) (h : NoDigit rest) :
    skipExponent (e.sign ++ (e.digits.chars ++ rest)) = .ok rest := by
  obtain ⟨c, ds, chars, isDigit, digits⟩ := e.digits.exists_cons
  have passed : Except.ok ((ds ++ rest).dropWhile Char.isDigit) = (.ok rest : Except Fault (List Char)) := by
    rw [dropDigits_append digits h]
  rw [chars]
  rcases e.signs with sign | sign | sign <;> rw [sign]
  · exact (skipExponent_digit isDigit).trans passed
  · exact (if_pos isDigit).trans passed
  · exact (if_pos isDigit).trans passed

theorem skipNumberTail_chars (e : Option Exponent) (h : Ends rest) :
    skipNumberTail (exponentChars e ++ rest) = .ok rest := by
  cases e with
  | none =>
    show skipNumberTail rest = .ok rest
    unfold skipNumberTail
    split
    · exact absurd rfl (h 'e' rfl).2.2.1
    · exact absurd rfl (h 'E' rfl).2.2.2
    · rfl
  | some e =>
    have passed := skipExponent_chars e h.noDigit
    rw [← List.append_assoc] at passed
    rcases e.marks with mark | mark
    · simpa [exponentChars, mark, skipNumberTail] using passed
    · simpa [exponentChars, mark, skipNumberTail] using passed

/-- Behind the whole part, what is no fraction is an exponent or the end. -/
theorem skipAfterWhole_of_ne_point (h : ∀ c ∈ cs.head?, c ≠ '.') : skipAfterWhole cs = skipNumberTail cs := by
  unfold skipAfterWhole
  split
  · exact absurd rfl (h '.' rfl)
  · exact absurd rfl (h '.' rfl)
  · rfl

theorem ne_point_exponent (e : Option Exponent) (h : Ends rest) : ∀ c ∈ (exponentChars e ++ rest).head?, c ≠ '.' := by
  cases e with
  | none => exact fun c hc => (h c hc).2.1
  | some e =>
    rintro c ⟨⟩
    rcases e.marks with mark | mark <;> rw [mark] <;> decide

theorem skipAfterWhole_chars (f : Option Digits) (e : Option Exponent) (h : Ends rest) :
    skipAfterWhole (fractionChars f ++ (exponentChars e ++ rest)) = .ok rest := by
  have tail := skipNumberTail_chars e h
  cases f with
  | none => exact (skipAfterWhole_of_ne_point (ne_point_exponent e h)).trans tail
  | some f =>
    obtain ⟨c, ds, chars, isDigit, digits⟩ := f.exists_cons
    have passed : skipAfterWhole ('.' :: c :: (ds ++ (exponentChars e ++ rest))) = .ok rest := by
      rw [skipAfterWhole, if_pos isDigit, dropDigits_append digits (noDigit_exponent e h), tail]
    simpa [fractionChars, chars] using passed

/-- Whether a number starts with a zero is asked of its first two characters. -/
theorem skipNumber_digit {c : Char} (isDigit : c.isDigit) (zero : c = '0' → NoDigit cs) :
    skipNumber (c :: cs) = skipAfterWhole (cs.dropWhile Char.isDigit) := by
  unfold skipNumber
  split
  · rename_i same; cases same
  · rename_i d later same
    obtain ⟨rfl, rfl⟩ := List.cons.inj same
    have other := zero rfl d rfl
    rw [other, if_neg Bool.false_ne_true, dropWhile_of_noDigit (noDigit_cons other)]
  · rename_i same
    obtain ⟨rfl, rfl⟩ := List.cons.inj same
    rfl
  · rename_i same
    obtain ⟨rfl, rfl⟩ := List.cons.inj same
    exact if_pos isDigit

/-- Where the first digit is a zero, no digit follows. -/
theorem NumberLiteral.noDigit_of_zero (n : NumberLiteral) {ds : List Char} (chars : n.whole.chars = '0' :: ds)
    (h : NoDigit cs) : NoDigit (ds ++ cs) := by
  have alone := n.canonical (by rw [chars]; rfl)
  rw [chars] at alone
  obtain rfl := (List.cons.inj alone).2
  exact h

theorem skipNumber_unsigned (n : NumberLiteral) (h : Ends rest) : skipNumber (n.unsigned ++ rest) = .ok rest := by
  obtain ⟨c, ds, chars, isDigit, digits⟩ := n.whole.exists_cons
  have tail := noDigit_fraction n.fraction n.exponent h
  have passed : skipNumber (c :: (ds ++ (fractionChars n.fraction ++ (exponentChars n.exponent ++ rest)))) =
      .ok rest := by
    rw [skipNumber_digit isDigit (by rintro rfl; exact n.noDigit_of_zero chars tail), dropDigits_append digits tail]
    exact skipAfterWhole_chars n.fraction n.exponent h
  simpa [NumberLiteral.unsigned, chars] using passed

/-! ### Reading -/

/-- Where nothing follows that could belong to the number, the reader reads all of `part`, and what it makes of it does
not depend on what follows. -/
def Reads (f : Reader Number) (part : List Char) : Prop :=
  ∃ r : Except Fault Number, ∀ rest, Ends rest → f (part ++ rest) = r.map fun n => (n, rest)

theorem readExponentDigits_append (digits : ∀ c ∈ ds, c.isDigit) (h : NoDigit rest) (e : Nat) :
    readExponentDigits e (ds ++ rest) = ((readExponentDigits e ds).1, rest) := by
  induction ds generalizing e with
  | nil =>
    cases rest with
    | nil => rfl
    | cons c rest =>
      simp [readExponentDigits, h c rfl]
  | cons d ds ih =>
    obtain ⟨isDigit, digits⟩ := List.forall_mem_cons.1 digits
    rw [List.cons_append, readExponentDigits, readExponentDigits, if_pos isDigit, if_pos isDigit]
    split
    · rw [dropDigits_append digits h]
    · exact ih digits _

/-- What is made of an exponent whose digits have been read. -/
def exponentNumber (negative down : Bool) (significand : Nat) (start : Int) : Option Nat → Except Fault Number
  | none =>
    if significand ≠ 0 ∧ ¬ down then .error .numberTooLarge
    else .ok (.float ⟨negative, 0, Binary64.leastExponent⟩)
  | some e => (compose negative significand (if down then start - e else start + e)).map .float

variable (negative : Bool) (significand : Nat) (start : Int)

theorem readExponent_sign {sign : List Char} (signs : sign = [] ∨ sign = ['+'] ∨ sign = ['-']) {c : Char}
    (isDigit : c.isDigit) (cs : List Char) : readExponent negative significand start (sign ++ c :: cs) =
      (exponentNumber negative (sign == ['-']) significand start (readExponentDigits (digitValue c) cs).1).map
        fun n => (n, (readExponentDigits (digitValue c) cs).2) := by
  have plus : c ≠ '+' := ne_of_isDigit isDigit rfl
  have minus : c ≠ '-' := ne_of_isDigit isDigit rfl
  unfold readExponent
  split
  rename_i down digits same
  obtain ⟨rfl, rfl⟩ : down = (sign == ['-']) ∧ digits = c :: cs := by
    rcases signs with rfl | rfl | rfl
    · split at same
      · rename_i first; exact absurd (List.cons.inj first).1 plus
      · rename_i first; exact absurd (List.cons.inj first).1 minus
      · cases same
        exact ⟨rfl, rfl⟩
    · cases same
      exact ⟨rfl, rfl⟩
    · cases same
      exact ⟨rfl, rfl⟩
  dsimp only
  rw [if_pos isDigit]
  obtain ⟨_ | e, rest⟩ := readExponentDigits (digitValue c) cs
  · simp only [exponentNumber]
    split <;> rfl
  · simp only [exponentNumber]
    cases compose negative significand (if sign == ['-'] then start - e else start + e) <;> rfl

theorem reads_readExponent (e : Exponent) :
    Reads (readExponent negative significand start) (e.sign ++ e.digits.chars) := by
  obtain ⟨c, ds, chars, isDigit, digits⟩ := e.digits.exists_cons
  refine ⟨exponentNumber negative (e.sign == ['-']) significand start (readExponentDigits (digitValue c) ds).1, ?_⟩
  intro rest h
  rw [chars, List.append_assoc, List.cons_append, readExponent_sign _ _ _ e.signs isDigit,
    readExponentDigits_append digits h.noDigit]

theorem reads_finishNumber (e : Option Exponent) :
    Reads (finishNumber negative significand start) (exponentChars e) := by
  cases e with
  | none =>
    refine ⟨(compose negative significand start).map .float, fun rest h => ?_⟩
    show finishNumber negative significand start rest = _
    unfold finishNumber
    split
    · exact absurd rfl (h 'e' rfl).2.2.1
    · exact absurd rfl (h 'E' rfl).2.2.2
    · cases compose negative significand start <;> rfl
  | some e =>
    obtain ⟨r, read⟩ := reads_readExponent negative significand start e
    refine ⟨r, fun rest h => ?_⟩
    have tail := read rest h
    rcases e.marks with mark | mark
    · simpa [exponentChars, mark, finishNumber] using tail
    · simpa [exponentChars, mark, finishNumber] using tail

theorem reads_readFraction (e : Option Exponent) (digits : ∀ c ∈ ds, c.isDigit) (places : Nat)
    (some_digit : places ≠ 0 ∨ ds ≠ []) (significand : Nat) :
    Reads (readFraction negative start significand places) (ds ++ exponentChars e) := by
  induction ds generalizing places significand with
  | nil =>
    obtain ⟨places, rfl⟩ := Nat.exists_eq_add_one_of_ne_zero (some_digit.resolve_right (fun h => h rfl))
    obtain ⟨r, read⟩ := reads_finishNumber negative significand (start - ↑(places + 1)) e
    refine ⟨r, fun rest h => ?_⟩
    rw [List.nil_append, ← read rest h]
    have stop := noDigit_exponent e h
    cases tail : exponentChars e ++ rest with
    | nil => simp [readFraction]
    | cons c tail' =>
      rw [tail] at stop
      simp [readFraction, stop c rfl]
  | cons d ds ih =>
    obtain ⟨isDigit, digits⟩ := List.forall_mem_cons.1 digits
    by_cases long : maxWord < significand * 10 + digitValue d
    · obtain ⟨r, read⟩ := reads_finishNumber negative significand (start - places) e
      refine ⟨r, fun rest h => ?_⟩
      rw [← read rest h, List.cons_append, List.cons_append, List.append_assoc, readFraction, if_pos isDigit,
        if_pos long, dropDigits_append digits (noDigit_exponent e h)]
    · obtain ⟨r, read⟩ := ih digits (places + 1) (.inl (Nat.succ_ne_zero places)) (significand * 10 + digitValue d)
      refine ⟨r, fun rest h => ?_⟩
      rw [← read rest h, List.cons_append, List.cons_append, readFraction, if_pos isDigit, if_neg long]

theorem afterWhole_of_ne_point (dropped : Nat) (h : ∀ c ∈ cs.head?, c ≠ '.') :
    afterWhole negative significand dropped cs = finishNumber negative significand dropped cs := by
  unfold afterWhole
  split
  · exact absurd rfl (h '.' rfl)
  · rfl

theorem reads_afterWhole (f : Option Digits) (e : Option Exponent) (dropped : Nat) :
    Reads (afterWhole negative significand dropped) (fractionChars f ++ exponentChars e) := by
  cases f with
  | none =>
    obtain ⟨r, read⟩ := reads_finishNumber negative significand dropped e
    refine ⟨r, fun rest h => ?_⟩
    rw [← read rest h]
    exact afterWhole_of_ne_point negative significand dropped (ne_point_exponent e h)
  | some f =>
    obtain ⟨r, read⟩ := reads_readFraction negative dropped e f.digits 0 (.inr f.nonempty) significand
    exact ⟨r, read⟩

theorem readWhole_end (h : Ends rest) : readWhole negative significand rest =
    (wholeNumber negative significand).map fun n => (n, rest) := by
  cases rest with
  | nil =>
    rw [readWhole]
    cases wholeNumber negative significand <;> rfl
  | cons c rest =>
    obtain ⟨noDigit, point, small, large⟩ := h c rfl
    rw [readWhole, noDigit, if_neg Bool.false_ne_true, if_neg (by simp [point, small, large])]
    cases wholeNumber negative significand <;> rfl

theorem readWhole_tail {c : Char} (h : c = '.' ∨ c = 'e' ∨ c = 'E') (cs : List Char) :
    readWhole negative significand (c :: cs) = afterWhole negative significand 0 (c :: cs) := by
  have noDigit : c.isDigit = false := by rcases h with rfl | rfl | rfl <;> rfl
  rw [readWhole, noDigit, if_neg Bool.false_ne_true, if_pos h]

/-- What follows the whole part starts in one of three ways, or there is nothing. -/
theorem tail_cases (f : Option Digits) (e : Option Exponent) : fractionChars f ++ exponentChars e = [] ∨
    ∃ c cs, fractionChars f ++ exponentChars e = c :: cs ∧ (c = '.' ∨ c = 'e' ∨ c = 'E') := by
  cases f with
  | some f => exact .inr ⟨_, _, rfl, .inl rfl⟩
  | none =>
    cases e with
    | none => exact .inl rfl
    | some e => exact .inr ⟨_, _, rfl, .inr e.marks⟩

theorem reads_readWhole (f : Option Digits) (e : Option Exponent) (digits : ∀ c ∈ ds, c.isDigit) :
    Reads (readWhole negative significand) (ds ++ (fractionChars f ++ exponentChars e)) := by
  induction ds generalizing significand with
  | nil =>
    rw [List.nil_append]
    rcases tail_cases f e with tail | ⟨c, cs, tail, starts⟩
    · rw [tail]
      exact ⟨wholeNumber negative significand, fun rest h => readWhole_end negative significand h⟩
    · obtain ⟨r, read⟩ := reads_afterWhole negative significand f e 0
      refine ⟨r, fun rest h => ?_⟩
      rw [← read rest h, tail]
      exact readWhole_tail negative significand starts _
  | cons d ds ih =>
    obtain ⟨isDigit, digits⟩ := List.forall_mem_cons.1 digits
    by_cases long : maxWord < significand * 10 + digitValue d
    · obtain ⟨r, read⟩ := reads_afterWhole negative significand f e (ds.length + 1)
      refine ⟨r, fun rest h => ?_⟩
      have tail := noDigit_fraction f e h
      have passed : (ds ++ (fractionChars f ++ (exponentChars e ++ rest))).dropWhile Char.isDigit =
          fractionChars f ++ (exponentChars e ++ rest) := dropDigits_append digits tail
      have count : (ds ++ (fractionChars f ++ (exponentChars e ++ rest))).length -
          (fractionChars f ++ (exponentChars e ++ rest)).length = ds.length := by
        simp
      rw [← read rest h, List.cons_append, List.cons_append, List.append_assoc, List.append_assoc, readWhole,
        if_pos isDigit, if_pos long]
      dsimp only
      rw [passed, count]
    · obtain ⟨r, read⟩ := ih (significand * 10 + digitValue d) digits
      refine ⟨r, fun rest h => ?_⟩
      rw [← read rest h, List.cons_append, List.cons_append, readWhole, if_pos isDigit, if_neg long]

theorem readNumber_digit {c : Char} (isDigit : c.isDigit) (zero : c = '0' → NoDigit cs) :
    readNumber negative (c :: cs) = readWhole negative (digitValue c) cs := by
  unfold readNumber
  split
  · rename_i same; cases same
  · rename_i d later same
    obtain ⟨rfl, rfl⟩ := List.cons.inj same
    rw [zero rfl d rfl, if_neg Bool.false_ne_true]
    rfl
  · rename_i same
    obtain ⟨rfl, rfl⟩ := List.cons.inj same
    rfl
  · rename_i same
    obtain ⟨rfl, rfl⟩ := List.cons.inj same
    exact if_pos isDigit

theorem reads_readNumber (n : NumberLiteral) : Reads (readNumber negative) n.unsigned := by
  obtain ⟨c, ds, chars, isDigit, digits⟩ := n.whole.exists_cons
  obtain ⟨r, read⟩ := reads_readWhole negative (digitValue c) n.fraction n.exponent digits
  refine ⟨r, fun rest h => ?_⟩
  have tail := noDigit_fraction n.fraction n.exponent h
  rw [← read rest h, NumberLiteral.unsigned, chars, List.cons_append, List.cons_append]
  refine readNumber_digit negative isDigit ?_
  rintro rfl
  rw [List.append_assoc, List.append_assoc]
  exact n.noDigit_of_zero chars tail

/-- The number that a literal stands for, or why it is out of range. -/
def NumberLiteral.read (n : NumberLiteral) : Except Fault Number := (readNumber n.negative n.unsigned).map (·.1)

theorem readNumber_unsigned (n : NumberLiteral) (h : Ends rest) :
    readNumber n.negative (n.unsigned ++ rest) = n.read.map fun m => (m, rest) := by
  obtain ⟨r, read⟩ := reads_readNumber n.negative n
  have alone := read [] ends_nil
  rw [List.append_nil] at alone
  have same : n.read = r := by
    rw [NumberLiteral.read, alone]
    cases r <;> rfl
  rw [read rest h, same]

end IdentityClient.Json
