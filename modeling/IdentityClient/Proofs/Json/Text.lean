import IdentityClient.Proofs.Json.Document
import Mathlib.Data.List.DropRight

/-!
# Reading and passing texts

A literal that stands between quotes is read as the text it stands for (`readText_chars`), and passed over whether it
stands for one or not (`skipText_chars`). Nothing else is read or passed (`exists_chars_of_readText`,
`exists_chars_of_skipText`).
-/

namespace IdentityClient.Json

open TextLiteral (chars units plain_append escaped_append code_append)

variable {u : Units} {cs rest : List Char}

theorem skipBlank_skipBlank (cs : List Char) : skipBlank (skipBlank cs) = skipBlank cs :=
  List.dropWhile_idempotent _ cs

theorem skipBlank_of_head {c : Char} (h : isBlank c = false) : skipBlank (c :: cs) = c :: cs := by
  simp [skipBlank, h]

theorem simpleEscape?_u : simpleEscape? 'u' = none := rfl

theorem ne_u_of_simpleEscape? {letter c : Char} (h : simpleEscape? letter = some c) : letter ≠ 'u' := by
  rintro rfl
  cases simpleEscape?_u.symm.trans h

theorem readFourHex_of_fourHex {a b c d : Char} {n : Nat} (h : fourHex a b c d = some n) (rest : List Char) :
    readFourHex (a :: b :: c :: d :: rest) = .ok (n, rest) := by
  simp [readFourHex, h]

theorem exists_of_readFourHex {n : Nat} (h : readFourHex cs = .ok (n, rest)) :
    ∃ a b c d, cs = a :: b :: c :: d :: rest ∧ fourHex a b c d = some n := by
  unfold readFourHex at h
  dsimp only at h
  split at h
  · rename_i a b c d rest'
    split at h
    · rename_i m spelled
      cases h
      exact ⟨a, b, c, d, rfl, spelled⟩
    · cases h
  · cases h

theorem length_le_length_chars (t : TextLiteral) : t.length ≤ (chars t).length := by
  induction t with
  | nil => exact Nat.le_refl 0
  | cons p t ih =>
    have : 1 ≤ p.chars.length := by cases p <;> simp [Piece.chars]
    simp only [chars, List.flatMap_cons, List.length_append, List.length_cons] at ih ⊢
    omega

/-! ### Escapes -/

theorem readEscape_escaped {letter c : Char} (named : simpleEscape? letter = some c) (rest : List Char) :
    readEscape (letter :: rest) = .ok (c, rest) := by
  have other := ne_u_of_simpleEscape? named
  unfold readEscape
  split
  · rename_i h; cases h
  · rename_i h; exact absurd (List.cons.inj h).1 other
  · rename_i h
    obtain ⟨rfl, rfl⟩ := List.cons.inj h
    rw [named]

theorem readEscape_alone {a b c d : Char} {n : Nat} (spelled : fourHex a b c d = some n)
    (low : ¬ (0xDC00 ≤ n ∧ n ≤ 0xDFFF)) (alone : n < 0xD800 ∨ 0xDBFF < n) (rest : List Char) :
    readEscape ('u' :: a :: b :: c :: d :: rest) = .ok (Char.ofNat n, rest) := by
  simp only [readEscape, readUnicode, readFourHex_of_fourHex spelled, if_neg low, if_pos alone]

theorem readEscape_low {a b c d : Char} {n : Nat} (spelled : fourHex a b c d = some n)
    (low : 0xDC00 ≤ n ∧ n ≤ 0xDFFF) (rest : List Char) :
    readEscape ('u' :: a :: b :: c :: d :: rest) = .error .loneSurrogate := by
  simp only [readEscape, readUnicode, readFourHex_of_fourHex spelled, if_pos low]

theorem readEscape_pair {a b c d a' b' c' d' : Char} {n m : Nat} (spelled : fourHex a b c d = some n)
    (low : ¬ (0xDC00 ≤ n ∧ n ≤ 0xDFFF)) (half : ¬ (n < 0xD800 ∨ 0xDBFF < n))
    (spelled' : fourHex a' b' c' d' = some m) (rest : List Char) :
    readEscape ('u' :: a :: b :: c :: d :: '\\' :: 'u' :: a' :: b' :: c' :: d' :: rest) =
      if m < 0xDC00 ∨ 0xDFFF < m then .error .loneSurrogate
      else .ok (Char.ofNat ((n - 0xD800) * 0x400 + (m - 0xDC00) + 0x10000), rest) := by
  simp only [readEscape, readUnicode, readFourHex_of_fourHex spelled, readFourHex_of_fourHex spelled', if_neg low,
    if_neg half]

/-- A half of a surrogate pair with no code behind it. -/
theorem readEscape_half {a b c d : Char} {n : Nat} (spelled : fourHex a b c d = some n)
    (low : ¬ (0xDC00 ≤ n ∧ n ≤ 0xDFFF)) (half : ¬ (n < 0xD800 ∨ 0xDBFF < n)) {t : TextLiteral}
    (other : ∀ a b c d m s t', t ≠ .code a b c d m s :: t') (rest : List Char) :
    readEscape ('u' :: a :: b :: c :: d :: (chars t ++ '"' :: rest)) = .error .unfinishedSurrogate := by
  simp only [readEscape, readUnicode, readFourHex_of_fourHex spelled, if_neg low, if_neg half]
  cases t with
  | nil => rfl
  | cons p t =>
    cases p with
    | plain c fits =>
      split
      · rename_i h; cases h
      · rename_i h; exact absurd (List.cons.inj h).1 fits.2.1
      · rename_i h; exact absurd (List.cons.inj h).1 fits.2.1
      · rfl
    | escaped letter c named =>
      split
      · rename_i h; cases h
      · rename_i h; cases h
      · rename_i h
        exact absurd (List.cons.inj (List.cons.inj h).2).1 (ne_u_of_simpleEscape? named)
      · rfl
    | code a b c d m spelled' => exact absurd rfl (other a b c d m spelled' t)

theorem exists_chars_of_readUnicode {d : Char} (h : readUnicode cs = .ok (d, rest)) :
    ∃ t, '\\' :: 'u' :: cs = chars t ++ rest := by
  unfold readUnicode at h
  split at h
  · cases h
  · rename_i n mid first
    obtain ⟨a, b, c, d, rfl, spelled⟩ := exists_of_readFourHex first
    split at h
    · cases h
    · split at h
      · cases h
        exact ⟨[.code a b c d n spelled], rfl⟩
      · split at h
        · cases h
        · cases h
        · split at h
          · cases h
          · rename_i m later second
            obtain ⟨a', b', c', d', rfl, spelled'⟩ := exists_of_readFourHex second
            split at h
            · cases h
            · obtain ⟨-, rfl⟩ := Prod.mk.inj (Except.ok.inj h)
              exact ⟨[.code a b c d n spelled, .code a' b' c' d' m spelled'], rfl⟩
        · cases h

theorem exists_chars_of_readEscape {d : Char} (h : readEscape cs = .ok (d, rest)) :
    ∃ t, '\\' :: cs = chars t ++ rest := by
  unfold readEscape at h
  split at h
  · cases h
  · exact exists_chars_of_readUnicode h
  · rename_i letter later _
    split at h
    · rename_i c named
      cases h
      exact ⟨[.escaped letter _ named], rfl⟩
    · cases h

theorem skipEscape_escaped {letter c : Char} (named : simpleEscape? letter = some c) (rest : List Char) :
    skipEscape (letter :: rest) = .ok rest := by
  have other := ne_u_of_simpleEscape? named
  unfold skipEscape
  split
  · rename_i h; cases h
  · rename_i h; exact absurd (List.cons.inj h).1 other
  · rename_i h
    obtain ⟨rfl, rfl⟩ := List.cons.inj h
    rw [named]

theorem exists_chars_of_skipEscape (h : skipEscape cs = .ok rest) : ∃ t, '\\' :: cs = chars t ++ rest := by
  unfold skipEscape at h
  split at h
  · cases h
  · split at h
    · cases h
    · rename_i n later first
      obtain ⟨a, b, c, d, rfl, spelled⟩ := exists_of_readFourHex first
      cases h
      exact ⟨[.code a b c d n spelled], rfl⟩
  · rename_i letter later _
    split at h
    · rename_i c named
      cases h
      exact ⟨[.escaped letter c named], rfl⟩
    · cases h

/-! ### Whole texts -/

theorem readUnits_plain {c : Char} (fits : c ≠ '"' ∧ c ≠ '\\' ∧ 0x20 ≤ c.toNat) (fuel : Nat) (acc rest : List Char) :
    readUnits u (fuel + 1) acc (c :: rest) = readUnits u fuel (c :: acc) rest := by
  rw [readUnits, if_neg fits.1, if_neg fits.2.1, if_neg (Nat.not_lt.2 fits.2.2)]

theorem readUnits_escape {c : Char} {cs rest : List Char} (read : readEscape cs = .ok (c, rest)) (fuel : Nat)
    (acc : List Char) :
    readUnits u (fuel + 1) acc ('\\' :: cs) = readUnits u fuel ((u.spell c).reverse ++ acc) rest := by
  rw [readUnits, if_neg (by decide), if_pos rfl, read]

theorem readUnits_bad {cs : List Char} {e : Fault} (read : readEscape cs = .error e) (fuel : Nat) (acc : List Char) :
    readUnits u (fuel + 1) acc ('\\' :: cs) = .error e := by
  rw [readUnits, if_neg (by decide), if_pos rfl, read]

/-- The units that are collected are those that the literal stands for, behind the ones collected before. -/
theorem readUnits_chars (t : TextLiteral) (fuel : Nat) (acc rest : List Char) (enough : t.length < fuel) :
    readUnits u fuel acc (chars t ++ '"' :: rest) = (units u t).map fun us => (acc.reverse ++ us, rest) := by
  -- A code of four digits stands alone (`case5`), before the second of its pair (`case6`, `case7`), or without it.
  fun_induction units u t generalizing fuel acc with
  | case1 =>
    obtain ⟨fuel, rfl⟩ := Nat.exists_eq_add_one_of_ne_zero (Nat.ne_of_gt enough)
    show readUnits u (fuel + 1) acc ('"' :: rest) = _
    simp [readUnits, Except.map]
  | case2 c fits t ih =>
    obtain ⟨fuel, rfl⟩ := Nat.exists_eq_add_one_of_ne_zero (Nat.ne_zero_of_lt enough)
    have go := ih fuel (c :: acc) (by simpa using enough)
    rw [plain_append, readUnits_plain fits, go]
    cases units u t <;> simp [Except.map]
  | case3 letter c named t ih =>
    obtain ⟨fuel, rfl⟩ := Nat.exists_eq_add_one_of_ne_zero (Nat.ne_zero_of_lt enough)
    have go := ih fuel ((u.spell c).reverse ++ acc) (by simpa using enough)
    rw [escaped_append, readUnits_escape (readEscape_escaped named _), go]
    cases units u t <;> simp [Except.map]
  | case4 a b c d n spelled t low =>
    obtain ⟨fuel, rfl⟩ := Nat.exists_eq_add_one_of_ne_zero (Nat.ne_zero_of_lt enough)
    rw [code_append]
    exact readUnits_bad (readEscape_low spelled low _) _ _
  | case5 a b c d n spelled t low alone ih =>
    obtain ⟨fuel, rfl⟩ := Nat.exists_eq_add_one_of_ne_zero (Nat.ne_zero_of_lt enough)
    have go := ih fuel ((u.spell (Char.ofNat n)).reverse ++ acc) (by simpa using enough)
    rw [code_append, readUnits_escape (readEscape_alone spelled low alone _), go]
    cases units u t <;> simp [Except.map]
  | case6 a b c d n spelled low half a' b' c' d' m spelled' t bad =>
    obtain ⟨fuel, rfl⟩ := Nat.exists_eq_add_one_of_ne_zero (Nat.ne_zero_of_lt enough)
    rw [code_append, code_append]
    refine readUnits_bad ?_ _ _
    exact (readEscape_pair spelled low half spelled' _).trans (if_pos bad)
  | case7 a b c d n spelled low half a' b' c' d' m spelled' t good ih =>
    obtain ⟨fuel, rfl⟩ := Nat.exists_eq_add_one_of_ne_zero (Nat.ne_zero_of_lt enough)
    rw [code_append, code_append,
      readUnits_escape ((readEscape_pair spelled low half spelled' _).trans (if_neg good)), ih]
    · cases units u t <;> simp [Except.map]
    · simp only [List.length_cons] at enough
      omega
  | case8 a b c d n spelled t low half other =>
    obtain ⟨fuel, rfl⟩ := Nat.exists_eq_add_one_of_ne_zero (Nat.ne_zero_of_lt enough)
    rw [code_append]
    exact readUnits_bad (readEscape_half spelled low half other _) _ _

theorem readText_chars (t : TextLiteral) (rest : List Char) :
    readText u (chars t ++ '"' :: rest) = (t.read u).map fun s => (s, rest) := by
  have enough : t.length < (chars t ++ '"' :: rest).length + 1 := by
    have := length_le_length_chars t
    simp only [List.length_append, List.length_cons]
    omega
  rw [readText, readUnits_chars t _ _ _ enough, TextLiteral.read]
  cases units u t with
  | error e => rfl
  | ok us => cases h : u.read us <;> simp [Except.map, h]

theorem exists_chars_of_readUnits {fuel : Nat} {acc us : List Char} (h : readUnits u fuel acc cs = .ok (us, rest)) :
    ∃ t, cs = chars t ++ '"' :: rest := by
  fun_induction readUnits u fuel acc cs with
  | case1 | case2 | case4 | case6 => cases h
  | case3 fuel acc =>
    cases h
    exact ⟨[], rfl⟩
  | case5 fuel acc later c mid read _ ih =>
    obtain ⟨t, rfl⟩ := ih h
    obtain ⟨t', first⟩ := exists_chars_of_readEscape read
    exact ⟨t' ++ t, by rw [first, TextLiteral.chars_append, List.append_assoc]⟩
  | case7 fuel acc c later quote backslash control ih =>
    obtain ⟨t, rfl⟩ := ih h
    exact ⟨.plain c ⟨quote, backslash, Nat.not_lt.1 control⟩ :: t, rfl⟩

theorem exists_chars_of_readText {s : String} (h : readText u cs = .ok (s, rest)) :
    ∃ t, cs = chars t ++ '"' :: rest ∧ t.read u = .ok s := by
  have chars_eq : ∃ t, cs = chars t ++ '"' :: rest := by
    unfold readText at h
    split at h
    · cases h
    · rename_i units _ read
      split at h <;> cases h
      exact exists_chars_of_readUnits read
  obtain ⟨t, rfl⟩ := chars_eq
  rw [readText_chars] at h
  refine ⟨t, rfl, ?_⟩
  cases read : t.read u with
  | error e => rw [read] at h; cases h
  | ok s' => rw [read] at h; cases h; rfl

theorem skipTextFrom_chars (t : TextLiteral) (fuel : Nat) (rest : List Char) (enough : t.length < fuel) :
    skipTextFrom fuel (chars t ++ '"' :: rest) = .ok rest := by
  induction t generalizing fuel with
  | nil =>
    obtain ⟨fuel, rfl⟩ := Nat.exists_eq_add_one_of_ne_zero (Nat.ne_of_gt enough)
    show skipTextFrom (fuel + 1) ('"' :: rest) = _
    simp [skipTextFrom]
  | cons p t ih =>
    obtain ⟨fuel, rfl⟩ := Nat.exists_eq_add_one_of_ne_zero (Nat.ne_zero_of_lt enough)
    have go := ih fuel (by simpa using enough)
    cases p with
    | plain c fits =>
      rw [plain_append, skipTextFrom, if_neg fits.1, if_neg fits.2.1, if_neg (Nat.not_lt.2 fits.2.2), go]
    | escaped letter c named =>
      rw [escaped_append, skipTextFrom, if_neg (by decide), if_pos rfl, skipEscape_escaped named]
      exact go
    | code a b c d n spelled =>
      rw [code_append, skipTextFrom, if_neg (by decide), if_pos rfl, skipEscape, readFourHex_of_fourHex spelled]
      exact go

theorem skipText_chars (t : TextLiteral) (rest : List Char) : skipText (chars t ++ '"' :: rest) = .ok rest := by
  refine skipTextFrom_chars t _ rest ?_
  have := length_le_length_chars t
  simp only [List.length_append, List.length_cons]
  omega

theorem exists_chars_of_skipTextFrom {fuel : Nat} (h : skipTextFrom fuel cs = .ok rest) :
    ∃ t, cs = chars t ++ '"' :: rest := by
  fun_induction skipTextFrom fuel cs with
  | case1 | case2 | case4 | case6 => cases h
  | case3 =>
    cases h
    exact ⟨[], rfl⟩
  | case5 fuel later mid skipped _ ih =>
    obtain ⟨t, rfl⟩ := ih h
    obtain ⟨t', first⟩ := exists_chars_of_skipEscape skipped
    exact ⟨t' ++ t, by rw [first, TextLiteral.chars_append, List.append_assoc]⟩
  | case7 fuel c later quote backslash control ih =>
    obtain ⟨t, rfl⟩ := ih h
    exact ⟨.plain c ⟨quote, backslash, Nat.not_lt.1 control⟩ :: t, rfl⟩

theorem exists_chars_of_skipText (h : skipText cs = .ok rest) : ∃ t, cs = chars t ++ '"' :: rest :=
  exists_chars_of_skipTextFrom h

end IdentityClient.Json
