import IdentityClient.Grpc.Timeout
import IdentityClient.Proofs.Net.HeaderText
import IdentityClient.Proofs.Net.Ipv4
import Mathlib.Data.List.Induction

/-!
# Reading a budget goes through

No step of it ends the program (`readTimeout_eq`). Header text is ASCII, so that its last byte is its last character, and
the length that is checked first keeps the number below `10 ^ 8` and the products with it far from the end of the words.
What is left is reading in numbers without bounds (`timeoutOfText`, `readText_eq`).
-/

namespace IdentityClient.Grpc

variable {cs number : List Char} {c : Char} {n : Nat} {a b amount : UInt64}

/-! ### Numbers -/

theorem decimal?_eq (cs : List Char) : decimal? cs = if cs ≠ [] ∧ ∀ c ∈ cs, c.isDigit = true then
    some (cs.foldl (fun n c => n * 10 + (c.toNat - '0'.toNat)) 0) else none := by
  rw [decimal?, ← ite_not]
  congr 1
  simp [List.all_eq_false]

theorem isDigit_of_mem_zeros {zeros : Nat} (hc : c ∈ List.replicate zeros '0' ++ Nat.toDigits 10 n) :
    c.isDigit = true := by
  rcases List.mem_append.1 hc with hc | hc
  · rw [(List.mem_replicate.1 hc).2]
    rfl
  · exact Ipv4.isDigit_of_mem hc

/-- Zeros before a number change nothing. -/
theorem decimal?_zeros (zeros n : Nat) : decimal? (List.replicate zeros '0' ++ Nat.toDigits 10 n) = some n := by
  have filled : List.replicate zeros '0' ++ Nat.toDigits 10 n ≠ [] :=
    List.append_ne_nil_of_right_ne_nil _ Nat.toDigits_ne_nil
  have nothing : (List.replicate zeros '0').foldl (fun n c => n * 10 + (c.toNat - '0'.toNat)) 0 = 0 := by
    clear filled
    induction zeros with
    | zero => rfl
    | succ zeros ih => exact ih
  have read : (Nat.toDigits 10 n).foldl (fun n c => n * 10 + (c.toNat - '0'.toNat)) 0 = n := Ipv4.decimalValue_toDigits n
  rw [decimal?_eq, if_pos ⟨filled, fun _ => isDigit_of_mem_zeros⟩, List.foldl_append, nothing, read]

theorem decimal?_append_singleton (cs : List Char) (c : Char) : decimal? (cs ++ [c]) =
    if c.isDigit then (if cs = [] then some 0 else decimal? cs).map fun n => n * 10 + (c.toNat - '0'.toNat) else none := by
  rw [decimal?_eq, decimal?_eq]
  by_cases filled : cs = []
  · simp [filled]
  · by_cases digits : ∀ c ∈ cs, c.isDigit = true <;> by_cases digit : c.isDigit = true <;>
      simp [filled, digits, digit, or_imp, forall_and]

theorem exists_digit (digit : c.isDigit = true) : ∃ d < 10, c.toNat - '0'.toNat = d ∧ [c] = Nat.toDigits 10 d := by
  have range : 48 ≤ c.toNat ∧ c.toNat ≤ 57 := Char.isDigit_iff_toNat.1 digit
  have small : c.toNat - 48 < 10 := by omega
  refine ⟨c.toNat - 48, small, rfl, ?_⟩
  rw [Nat.toDigits_of_lt_base small, List.singleton_inj, ← Char.toNat_inj, Nat.toNat_digitChar_of_lt_ten small]
  omega

/-- What is read as a number is that number in decimal, behind zeros. -/
theorem decimal?_eq_some_iff : decimal? cs = some n ↔ ∃ zeros, cs = List.replicate zeros '0' ++ Nat.toDigits 10 n := by
  constructor
  · intro read
    -- From the end, as what stands before a digit is a number, too.
    induction cs using List.reverseRecOn generalizing n with
    | nil => cases read
    | append_singleton cs c ih =>
      rw [decimal?_append_singleton] at read
      split at read
      · rename_i digit
        obtain ⟨d, small, value, written⟩ := exists_digit digit
        obtain ⟨m, front, rfl⟩ := Option.map_eq_some_iff.1 read
        rw [value, written]
        split at front
        · rename_i empty
          cases front
          exact ⟨0, by rw [empty, Nat.zero_mul, Nat.zero_add]; rfl⟩
        · obtain ⟨zeros, rfl⟩ := ih front
          rcases Nat.eq_zero_or_pos m with rfl | pos
          · -- Nothing but zeros stands before the digit.
            refine ⟨zeros + 1, ?_⟩
            rw [Nat.zero_mul, Nat.zero_add, List.replicate_succ']
            rfl
          · refine ⟨zeros, ?_⟩
            rw [List.append_assoc, Nat.toDigits_append_toDigits (by decide) pos small, Nat.mul_comm]
      · cases read
  · rintro ⟨zeros, rfl⟩
    exact decimal?_zeros zeros n

theorem unsigned?_lt (read : unsigned? cs = some n) (short : cs.length ≤ maxTimeoutDigits) :
    n < 10 ^ maxTimeoutDigits := by
  have small {digits : List Char} (read : decimal? digits = some n) (short : digits.length ≤ maxTimeoutDigits) :
      n < 10 ^ maxTimeoutDigits := by
    obtain ⟨zeros, rfl⟩ := decimal?_eq_some_iff.1 read
    rw [List.length_append] at short
    exact (Nat.length_toDigits_le_iff (by decide) (by decide)).1 (by omega)
  unfold unsigned? at read
  split at read
  · exact small read (Nat.le_of_succ_le short)
  · exact small read short

/-! ### Words -/

theorem product_eq (fits : a.toNat * b.toNat < UInt64.size) : product a b = .ok (a * b) := if_pos fits

theorem toNat_mul (fits : a.toNat * b.toNat < UInt64.size) : (a * b).toNat = a.toNat * b.toNat := by
  rw [UInt64.toNat_mul]
  exact Nat.mod_eq_of_lt fits

/-- A span is exact, and there is one, as long as its seconds fit into a word when the unit is the longest. -/
theorem TimeUnit.span_eq (unit : TimeUnit) (fits : amount.toNat * 3600 < UInt64.size) :
    unit.span amount = .ok ⟨amount.toNat * unit.nanos⟩ := by
  -- Words are multiplied like numbers, first by sixty and then by sixty again.
  have once : amount.toNat * 60 < UInt64.size := by omega
  have toNat_once : (amount * 60).toNat = amount.toNat * 60 := toNat_mul once
  have twice : (amount * 60).toNat * 60 < UInt64.size := by omega
  have toNat_twice : (amount * 60 * 60).toNat = (amount * 60).toNat * 60 := toNat_mul twice
  cases unit with
  | hour =>
    calc hour.span amount
      _ = (product (amount * 60) 60).map fun secs => .ofSecs secs.toNat := by rw [span, product_eq once]; rfl
      _ = .ok (.ofSecs (amount.toNat * 60 * 60)) := by rw [product_eq twice, ← toNat_once, ← toNat_twice]; rfl
      _ = .ok ⟨amount.toNat * (3600 * Duration.nanosPerSecond)⟩ := by
        rw [Duration.ofSecs_eq, Nat.mul_assoc, Nat.mul_assoc, ← Nat.mul_assoc 60]
  | minute =>
    calc minute.span amount
      _ = .ok (.ofSecs (amount.toNat * 60)) := by rw [span, product_eq once, ← toNat_once]; rfl
      _ = .ok ⟨amount.toNat * (60 * Duration.nanosPerSecond)⟩ := by rw [Duration.ofSecs_eq, Nat.mul_assoc]
  | second => exact congrArg Except.ok (Duration.ofSecs_eq _)
  | milli => exact congrArg Except.ok (Duration.ofTicks_eq (by decide) _)
  | micro => exact congrArg Except.ok (Duration.ofTicks_eq (by decide) _)
  | nano => exact congrArg Except.ok (Duration.ofTicks_eq (by decide) _)

theorem word?_eq (short : cs.length ≤ maxTimeoutDigits) : word? cs = (unsigned? cs).map UInt64.ofNat := by
  unfold word?
  cases read : unsigned? cs with
  | none => rfl
  | some n =>
    have small := unsigned?_lt read short
    exact if_pos (Nat.lt_trans small (by decide))

/-! ### Texts -/

/-- The last byte of a text is its last character, if that is ASCII. -/
theorem cutLast_append (number : List Char) (ascii : c.toNat < 0x80) : cutLast (number ++ [c]) = .ok (number, [c]) := by
  have length : (Utf8.encodeChars (number ++ [c])).length = (Utf8.encodeChars number).length + 1 := by
    simp [Utf8.utf8EncodeChar_of_ascii ascii]
  have cut : Utf8.cutAt? (number ++ [c]) (Utf8.encodeChars number).length = some (number, [c]) :=
    Utf8.cutAt?_eq_some_iff.2 ⟨rfl, rfl⟩
  rw [cutLast, length]
  dsimp only
  rw [cut]

/-- ASCII text of two characters or more is cut in front of the last one. -/
theorem exists_cut (ascii : ∀ c ∈ cs, c.toNat < 0x80) (long : 2 ≤ cs.length) :
    ∃ number c, cs = number ++ [c] ∧ number ≠ [] ∧ cutLast cs = .ok (number, [c]) := by
  have filled : cs ≠ [] := by
    rintro rfl
    exact absurd long (by decide)
  obtain ⟨number, c, rfl⟩ : ∃ number c, cs = number ++ [c] := ⟨_, _, (List.dropLast_concat_getLast filled).symm⟩
  refine ⟨number, c, rfl, ?_, cutLast_append number (ascii c (by simp))⟩
  rintro rfl
  exact absurd long (by decide : ¬ 2 ≤ 1)

/-- A number of at most eight characters is far too small for a product to leave the words. -/
theorem readParts_eq (c : Char) (short : number.length ≤ maxTimeoutDigits) : readParts number [c] =
    .ok ((TimeUnit.ofChar? c).bind fun unit => (unsigned? number).map fun amount => ⟨amount * unit.nanos⟩) := by
  rw [readParts, word?_eq short, TimeUnit.ofText?]
  cases TimeUnit.ofChar? c with
  | none => cases unsigned? number <;> rfl
  | some unit =>
    cases read : unsigned? number with
    | none => rfl
    | some n =>
      have small : n < 100000000 := unsigned?_lt read short
      have size : UInt64.size = 18446744073709551616 := rfl
      have word : (UInt64.ofNat n).toNat = n := UInt64.toNat_ofNat_of_lt' (by omega)
      have spanned : unit.span (.ofNat n) = .ok ⟨(UInt64.ofNat n).toNat * unit.nanos⟩ := unit.span_eq (by omega)
      rw [word] at spanned
      show (unit.span (.ofNat n)).map some = _
      rw [spanned]
      rfl

/-- The budget that a text states, in numbers without bounds. -/
def timeoutOfText (text : List Char) : Option Duration :=
  if text.length < 2 ∨ maxTimeoutDigits + 1 < text.length then none
  else do
    let unit ← TimeUnit.ofChar? (text.getLast?.getD ' ')
    let amount ← unsigned? text.dropLast
    pure ⟨amount * unit.nanos⟩

/-- Reading goes through on every ASCII text. -/
theorem readText_eq (ascii : ∀ c ∈ cs, c.toNat < 0x80) : readText cs = .ok (timeoutOfText cs) := by
  -- The length that is checked counts bytes, the number behind the check counts characters.
  have length : (Utf8.encodeChars cs).length = cs.length := by rw [Utf8.encodeChars_of_ascii ascii, List.length_map]
  rw [readText, timeoutOfText, length]
  dsimp only
  split
  · rfl
  · rename_i fits
    obtain ⟨number, c, rfl, -, cut⟩ := exists_cut ascii (by omega)
    rw [List.length_append, List.length_singleton] at fits
    rw [cut, List.getLast?_concat, List.dropLast_concat, Option.getD_some]
    show readParts number [c] = _
    rw [readParts_eq c (by omega)]
    cases TimeUnit.ofChar? c <;> cases unsigned? number <;> rfl

/-! ### Headers -/

/-- Whatever the headers are, reading goes through, to what is stated in numbers without bounds. -/
theorem readTimeout_eq_ok (headers : Headers) : readTimeout headers =
    .ok (((headers.get? timeoutHeader).bind HeaderValue.toString?).bind fun text => timeoutOfText text.toList) := by
  unfold readTimeout
  cases first : (headers.get? timeoutHeader).bind HeaderValue.toString? with
  | none => rfl
  | some text =>
    obtain ⟨v, -, shown⟩ := Option.bind_eq_some_iff.1 first
    exact readText_eq (HeaderValue.ascii_of_toString? shown).1

theorem timeout_eq (headers : Headers) : timeout headers =
    ((headers.get? timeoutHeader).bind HeaderValue.toString?).bind fun text => timeoutOfText text.toList := by
  rw [timeout, readTimeout_eq_ok]
  rfl

theorem readTimeout_eq (headers : Headers) : readTimeout headers = .ok (timeout headers) := by
  rw [timeout_eq, readTimeout_eq_ok]

end IdentityClient.Grpc
