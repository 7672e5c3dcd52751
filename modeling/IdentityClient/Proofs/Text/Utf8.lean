import IdentityClient.Text.Utf8

/-!
# UTF-8 read back

What is written as UTF-8 is read as the same characters, by the strict reader (`decodeChars_encodeChars`) and by the one
that replaces what it cannot read (`decodeLossy_encode`). A character takes one to four bytes; the first says how many
follow, and in what range the second lies (`leadInfo`).
-/

namespace IdentityClient.Utf8

variable {c : Char} {cs : List Char} {n : Nat}

theorem toNat_ofNat (h : n < 0x100) : (UInt8.ofNat n).toNat = n :=
  UInt8.toNat_ofNat_of_lt' h

/-! ### Single bytes -/

theorem payload_tail (h : n < 0x40) : isTail (UInt8.ofNat (n + 0x80)) = true ∧ (UInt8.ofNat (n + 0x80)).toNat % 64 = n := by
  have all : ∀ n < 0x40, isTail (UInt8.ofNat (n + 0x80)) = true := by decide
  rw [toNat_ofNat (by omega)]
  exact ⟨all n h, by omega⟩

theorem leadInfo_two (low : 2 ≤ n) (high : n < 0x20) : leadInfo (UInt8.ofNat (n + 0xC0)) =
    some (UInt8.ofNat 0x80, UInt8.ofNat 0xBF, 1) := by
  have all : ∀ n < 0x20, 2 ≤ n → leadInfo (UInt8.ofNat (n + 0xC0)) = some (UInt8.ofNat 0x80, UInt8.ofNat 0xBF, 1) := by
    decide
  exact all n high low

/-- The first three-byte characters are those that two bytes cannot hold, and there is a gap for the surrogates. -/
theorem leadInfo_three (h : n < 0x10) : leadInfo (UInt8.ofNat (n + 0xE0)) =
    some (UInt8.ofNat (if n = 0 then 0xA0 else 0x80), UInt8.ofNat (if n = 0xD then 0x9F else 0xBF), 2) := by
  have all : ∀ n < 0x10, leadInfo (UInt8.ofNat (n + 0xE0)) =
      some (UInt8.ofNat (if n = 0 then 0xA0 else 0x80), UInt8.ofNat (if n = 0xD then 0x9F else 0xBF), 2) := by decide
  exact all n h

theorem leadInfo_four (h : n < 5) : leadInfo (UInt8.ofNat (n + 0xF0)) =
    some (UInt8.ofNat (if n = 0 then 0x90 else 0x80), UInt8.ofNat (if n = 4 then 0x8F else 0xBF), 3) := by
  have all : ∀ n < 5, leadInfo (UInt8.ofNat (n + 0xF0)) =
      some (UInt8.ofNat (if n = 0 then 0x90 else 0x80), UInt8.ofNat (if n = 4 then 0x8F else 0xBF), 3) := by decide
  exact all n h

theorem not_ascii_lead (low : 0x80 ≤ n) (high : n < 0x100) : ¬ UInt8.ofNat n < 0x80 := by
  rw [UInt8.lt_iff_toNat_lt, toNat_ofNat high]
  exact Nat.not_lt.2 low

theorem in_range (low high : Nat) (above : low ≤ n) (below : n ≤ high) (small : high < 0x100) :
    (UInt8.ofNat low ≤ UInt8.ofNat n && UInt8.ofNat n ≤ UInt8.ofNat high) = true := by
  simp only [Bool.and_eq_true, decide_eq_true_eq, UInt8.le_iff_toNat_le]
  rw [toNat_ofNat (by omega), toNat_ofNat (by omega), toNat_ofNat small]
  exact ⟨above, below⟩

/-! ### Single characters -/

theorem readTails_payload {acc seen tails : Nat} {rest : Bytes} (h : n < 0x40) :
    readTails acc seen (tails + 1) (UInt8.ofNat (n + 0x80) :: rest) = readTails (acc * 64 + n) (seen + 1) tails rest := by
  rw [readTails, (payload_tail h).1, (payload_tail h).2]
  rfl

theorem readChar_two {a b : Nat} (low : 2 ≤ a) (ha : a < 0x20) (hb : b < 0x40) (rest : Bytes) :
    readChar (UInt8.ofNat (a + 0xC0)) (UInt8.ofNat (b + 0x80) :: rest) = .char (Char.ofNat (a * 64 + b)) 2 := by
  have second := in_range (n := b + 0x80) 0x80 0xBF (by omega) (by omega) (by decide)
  have bits : leadBits (UInt8.ofNat (a + 0xC0)) 1 = a := by
    rw [leadBits, toNat_ofNat (by omega)]
    show (a + 0xC0) % 32 = a
    omega
  rw [readChar, if_neg (not_ascii_lead (by omega) (by omega)), leadInfo_two low ha]
  dsimp only
  rw [if_pos second, bits, (payload_tail hb).2]
  rfl

theorem readChar_three {a b d : Nat} (ha : a < 0x10) (hb : b < 0x40) (hd : d < 0x40) (long : a = 0 → 0x20 ≤ b)
    (gap : a = 0xD → b < 0x20) (rest : Bytes) :
    readChar (UInt8.ofNat (a + 0xE0)) (UInt8.ofNat (b + 0x80) :: UInt8.ofNat (d + 0x80) :: rest) =
      .char (Char.ofNat ((a * 64 + b) * 64 + d)) 3 := by
  have second := in_range (n := b + 0x80) (if a = 0 then 0xA0 else 0x80) (if a = 0xD then 0x9F else 0xBF)
    (by split <;> omega) (by split <;> omega) (by split <;> decide)
  have bits : leadBits (UInt8.ofNat (a + 0xE0)) 2 = a := by
    rw [leadBits, toNat_ofNat (by omega)]
    show (a + 0xE0) % 16 = a
    omega
  rw [readChar, if_neg (not_ascii_lead (by omega) (by omega)), leadInfo_three ha]
  dsimp only
  rw [if_pos second, bits, (payload_tail hb).2, readTails_payload hd]
  rfl

theorem readChar_four {a b d e : Nat} (ha : a < 5) (hb : b < 0x40) (hd : d < 0x40) (he : e < 0x40)
    (long : a = 0 → 0x10 ≤ b) (last : a = 4 → b < 0x10) (rest : Bytes) :
    readChar (UInt8.ofNat (a + 0xF0))
        (UInt8.ofNat (b + 0x80) :: UInt8.ofNat (d + 0x80) :: UInt8.ofNat (e + 0x80) :: rest) =
      .char (Char.ofNat (((a * 64 + b) * 64 + d) * 64 + e)) 4 := by
  have second := in_range (n := b + 0x80) (if a = 0 then 0x90 else 0x80) (if a = 4 then 0x8F else 0xBF)
    (by split <;> omega) (by split <;> omega) (by split <;> decide)
  have bits : leadBits (UInt8.ofNat (a + 0xF0)) 3 = a := by
    rw [leadBits, toNat_ofNat (by omega)]
    show (a + 0xF0) % 8 = a
    omega
  rw [readChar, if_neg (not_ascii_lead (by omega) (by omega)), leadInfo_four ha]
  dsimp only
  rw [if_pos second, bits, (payload_tail hb).2, readTails_payload hd, readTails_payload he]
  rfl

theorem readChar_of_ascii (ascii : c.toNat < 0x80) (rest : Bytes) :
    readChar (UInt8.ofNat c.toNat) rest = .char c 1 := by
  have low : UInt8.ofNat c.toNat < 0x80 := by
    rw [UInt8.lt_iff_toNat_lt, toNat_ofNat (by omega)]
    exact ascii
  rw [readChar, if_pos low, toNat_ofNat (by omega), Char.ofNat_toNat]

theorem utf8EncodeChar_of_ascii (ascii : c.toNat < 0x80) : String.utf8EncodeChar c = [UInt8.ofNat c.toNat] :=
  if_pos (Nat.le_of_lt_succ ascii)

/-- A written character is read again, whatever follows it. -/
theorem readChar_utf8EncodeChar (c : Char) (rest : Bytes) : ∃ b tail, String.utf8EncodeChar c = b :: tail ∧
    readChar b (tail ++ rest) = .char c (tail.length + 1) := by
  have back {n : Nat} (h : c.toNat = n) : Char.ofNat n = c := by rw [← h, Char.ofNat_toNat]
  have valid : c.toNat < 0xD800 ∨ (0xDFFF < c.toNat ∧ c.toNat < 0x110000) := c.valid
  rcases Nat.lt_or_ge c.toNat 0x80 with ascii | one
  · exact ⟨_, [], utf8EncodeChar_of_ascii ascii, readChar_of_ascii ascii rest⟩
  unfold String.utf8EncodeChar
  simp only [Char.toNat_val]
  generalize hv : c.toNat = v at *
  rw [if_neg (by omega)]
  split
  · refine ⟨_, _, rfl, ?_⟩
    have read := readChar_two (a := v / 64 % 32) (b := v % 64) (by omega) (by omega) (by omega) rest
    rwa [back (by omega)] at read
  · split
    · refine ⟨_, _, rfl, ?_⟩
      have read := readChar_three (a := v / 4096 % 16) (b := v / 64 % 64) (d := v % 64) (by omega) (by omega) (by omega)
        (by omega) (by omega) rest
      rwa [back (by omega)] at read
    · refine ⟨_, _, rfl, ?_⟩
      have read := readChar_four (a := v / 262144 % 8) (b := v / 4096 % 64) (d := v / 64 % 64) (e := v % 64) (by omega)
        (by omega) (by omega) (by omega) (by omega) (by omega) rest
      rwa [back (by omega)] at read

/-! ### Texts -/

/-- ASCII text takes a byte per character. -/
theorem encodeChars_of_ascii (ascii : ∀ c ∈ cs, c.toNat < 0x80) : encodeChars cs = cs.map fun c => UInt8.ofNat c.toNat := by
  induction cs with
  | nil => rfl
  | cons c cs ih =>
    rw [List.forall_mem_cons] at ascii
    rw [encodeChars_cons, utf8EncodeChar_of_ascii ascii.1, ih ascii.2]
    rfl

theorem decodeFrom_encodeChars {fuel : Nat} (enough : (encodeChars cs).length ≤ fuel) (offset : Nat) (acc : List Char) :
    decodeFrom fuel offset acc (encodeChars cs) = .ok (acc.reverse ++ cs) := by
  induction cs generalizing fuel offset acc with
  | nil => simp [decodeFrom]
  | cons c cs ih =>
    obtain ⟨b, tail, written, read⟩ := readChar_utf8EncodeChar c (encodeChars cs)
    rw [encodeChars_cons, written] at enough ⊢
    cases fuel with
    | zero => simp at enough
    | succ fuel =>
      simp only [List.cons_append, List.length_cons, List.length_append] at enough
      rw [List.cons_append, decodeFrom, read]
      dsimp only
      rw [Nat.add_sub_cancel, List.drop_left, ih (by omega)]
      simp

/-- Reading what was written gives it back. -/
theorem decodeChars_encodeChars (cs : List Char) : decodeChars (encodeChars cs) = .ok cs :=
  decodeFrom_encodeChars (Nat.le_refl _) 0 []

theorem decodeLossyFrom_encodeChars {fuel : Nat} (enough : (encodeChars cs).length ≤ fuel) (acc : List Char) :
    decodeLossyFrom fuel acc (encodeChars cs) = acc.reverse ++ cs := by
  induction cs generalizing fuel acc with
  | nil => simp [decodeLossyFrom]
  | cons c cs ih =>
    obtain ⟨b, tail, written, read⟩ := readChar_utf8EncodeChar c (encodeChars cs)
    rw [encodeChars_cons, written] at enough ⊢
    cases fuel with
    | zero => simp at enough
    | succ fuel =>
      simp only [List.cons_append, List.length_cons, List.length_append] at enough
      rw [List.cons_append, decodeLossyFrom, read]
      dsimp only
      rw [Nat.add_sub_cancel, List.drop_left, ih (by omega)]
      simp

theorem decodeLossy_encode (s : String) : decodeLossy (encode s) = s := by
  rw [decodeLossy, encode, decodeLossyFrom_encodeChars (Nat.le_refl _) [], List.reverse_nil, List.nil_append,
    String.ofList_toList]

end IdentityClient.Utf8
