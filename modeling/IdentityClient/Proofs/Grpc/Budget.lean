import IdentityClient.Proofs.Grpc.Timeout

/-!
# Budgets are exact

A budget as it is written (`Budget`) is a number in decimal, which zeros may fill up to eight digits, and a unit. What is
read is that number times the unit, with nothing rounded and no step that ends the program, and every budget is read
(`timeout_exact`).
-/

namespace IdentityClient.Grpc

/-- A budget as it is written: zeros, a number in decimal and the letter of a unit. A plus sign may stand in front,
where it takes the place of a digit. -/
structure Budget where
  plus : Bool
  zeros : Nat
  number : Nat
  unit : TimeUnit
  fits : plus.toNat + (zeros + (Nat.toDigits 10 number).length) ≤ 8

def numeral (plus : Bool) (zeros n : Nat) : List Char :=
  (if plus then ['+'] else []) ++ (List.replicate zeros '0' ++ Nat.toDigits 10 n)

namespace Budget

def text (b : Budget) : List Char := numeral b.plus b.zeros b.number ++ [b.unit.toChar]

def span (b : Budget) : Duration := ⟨b.number * b.unit.nanos⟩

theorem number_lt (b : Budget) : b.number < 10 ^ 8 :=
  (Nat.length_toDigits_le_iff (by decide) (by decide)).1 (by have := b.fits; omega)

end Budget

variable {cs : List Char} {n : Nat} {d : Duration} {headers : Headers}

theorem length_numeral (plus : Bool) (zeros n : Nat) :
    (numeral plus zeros n).length = plus.toNat + (zeros + (Nat.toDigits 10 n).length) := by
  cases plus <;> simp [numeral, Nat.add_comm]

theorem unsigned?_eq_some_iff : unsigned? cs = some n ↔ ∃ plus zeros, cs = numeral plus zeros n := by
  constructor
  · intro read
    unfold unsigned? at read
    split at read
    · obtain ⟨zeros, rfl⟩ := decimal?_eq_some_iff.1 read
      exact ⟨true, zeros, rfl⟩
    · obtain ⟨zeros, rfl⟩ := decimal?_eq_some_iff.1 read
      exact ⟨false, zeros, rfl⟩
  · rintro ⟨plus, zeros, rfl⟩
    cases plus with
    | true => exact decimal?_zeros zeros n
    | false =>
      show unsigned? (List.replicate zeros '0' ++ Nat.toDigits 10 n) = some n
      unfold unsigned?
      split
      · rename_i digits signed
        have digit : '+'.isDigit = true := isDigit_of_mem_zeros (signed ▸ List.mem_cons_self)
        cases digit
      · exact decimal?_zeros zeros n

/-- What is read of a text is a budget, and every budget is read. -/
theorem timeoutOfText_eq_some_iff_budget : timeoutOfText cs = some d ↔ ∃ b : Budget, cs = b.text ∧ d = b.span := by
  rw [timeoutOfText_eq_some_iff]
  constructor
  · rintro ⟨_, unit, n, rfl, ⟨-, short⟩, read, rfl⟩
    obtain ⟨plus, zeros, rfl⟩ := unsigned?_eq_some_iff.1 read
    rw [length_numeral] at short
    exact ⟨⟨plus, zeros, n, unit, short⟩, rfl, rfl⟩
  · rintro ⟨b, rfl, rfl⟩
    have some_digit : 1 ≤ (Nat.toDigits 10 b.number).length := List.length_pos_iff.2 Nat.toDigits_ne_nil
    have fits := b.fits
    refine ⟨_, b.unit, b.number, rfl, ?_, unsigned?_eq_some_iff.2 ⟨b.plus, b.zeros, rfl⟩, rfl⟩
    rw [length_numeral, maxTimeoutDigits]
    omega

/-- A budget is written in printing ASCII characters. -/
theorem Budget.graphic (b : Budget) : ∀ c ∈ b.text, 0x20 ≤ c.toNat ∧ c.toNat < 0x7f := by
  have sign : ∀ c ∈ if b.plus then ['+'] else [], 0x20 ≤ c.toNat ∧ c.toNat < 0x7f := by
    cases b.plus <;> decide
  have digits : ∀ c ∈ List.replicate b.zeros '0' ++ Nat.toDigits 10 b.number, 0x20 ≤ c.toNat ∧ c.toNat < 0x7f := by
    intro c hc
    have range : 48 ≤ c.toNat ∧ c.toNat ≤ 57 := Char.isDigit_iff_toNat.1 (isDigit_of_mem_zeros hc)
    omega
  have letter : ∀ c ∈ [b.unit.toChar], 0x20 ≤ c.toNat ∧ c.toNat < 0x7f := by
    cases b.unit <;> decide
  exact List.forall_mem_append.2 ⟨List.forall_mem_append.2 ⟨sign, digits⟩, letter⟩

/-- A header value that is a budget is shown as the text of the budget. -/
theorem Budget.toString?_eq {v : HeaderValue} (b : Budget) (written : v.bytes = Utf8.encodeChars b.text) :
    v.toString? = some (String.ofList b.text) := by
  have ascii : ∀ c ∈ b.text, c.toNat < 0x80 := fun c hc => Nat.lt_succ_of_lt (b.graphic c hc).2
  refine HeaderValue.toString?_of_encode ?_ (by rw [written, Utf8.encode, String.toList_ofList])
  rw [written, Utf8.encodeChars_of_ascii ascii, List.forall_mem_map]
  exact fun c hc => HeaderValue.isShown_ofNat (b.graphic c hc).1 (b.graphic c hc).2

theorem timeout_eq_some_iff_budget : timeout headers = some d ↔
    ∃ v, headers.get? timeoutHeader = some v ∧ ∃ b : Budget, v.bytes = Utf8.encodeChars b.text ∧ d = b.span := by
  simp only [timeout_eq, Option.bind_eq_some_iff, timeoutOfText_eq_some_iff_budget]
  constructor
  · rintro ⟨text, ⟨v, first, read⟩, b, same, rfl⟩
    refine ⟨v, first, b, ?_, rfl⟩
    rw [(HeaderValue.ascii_of_toString? read).2, Utf8.encode, same]
  · rintro ⟨v, first, b, written, rfl⟩
    exact ⟨_, ⟨v, first, b.toString?_eq written⟩, b, String.toList_ofList, rfl⟩

/-- How the budget in `headers` is read. -/
structure ReadsExactly (headers : Headers) : Prop where
  /-- Nothing ends the program, whatever the headers hold: a text is cut between two characters, and no product leaves the
  words. -/
  goes_through : readTimeout headers = .ok (timeout headers)
  /-- Where a text is cut, one character is left behind the cut, and something is in front. -/
  cut : ∀ v text, headers.get? timeoutHeader = some v → v.toString? = some text → 2 ≤ (Utf8.encode text).length →
    ∃ number c, text.toList = number ++ [c] ∧ number ≠ [] ∧ cutLast text.toList = .ok (number, [c])
  /-- What is read is the number that is written times the unit, and the number is small. -/
  exact : ∀ d, timeout headers = some d → ∃ v, headers.get? timeoutHeader = some v ∧ ∃ b : Budget,
    v.bytes = Utf8.encodeChars b.text ∧ d.nanos = b.number * b.unit.nanos ∧ b.number < 10 ^ 8
  /-- Every budget without a sign is read, however many zeros fill it. -/
  accepted : ∀ v, headers.get? timeoutHeader = some v → ∀ b : Budget, b.plus = false →
    v.bytes = Utf8.encodeChars b.text → timeout headers = some ⟨b.number * b.unit.nanos⟩
  /-- Values after the first one change nothing. -/
  first : ∀ others : Headers, (others.getAll timeoutHeader).head? = (headers.getAll timeoutHeader).head? →
    readTimeout others = readTimeout headers

theorem timeout_exact (headers : Headers) : ReadsExactly headers where
  goes_through := readTimeout_eq headers
  cut := by
    intro v text _ read long
    have ascii := (HeaderValue.ascii_of_toString? read).1
    rw [Utf8.encode, Utf8.encodeChars_of_ascii ascii, List.length_map] at long
    exact exists_cut ascii long
  exact := by
    intro d read
    obtain ⟨v, first, b, written, rfl⟩ := timeout_eq_some_iff_budget.1 read
    exact ⟨v, first, b, written, rfl, b.number_lt⟩
  accepted := by
    intro v first b _ written
    exact timeout_eq_some_iff_budget.2 ⟨v, first, b, written, rfl⟩
  first := by
    intro others same
    rw [readTimeout, readTimeout, Headers.get?_eq_head?, Headers.get?_eq_head?, same]

/-- The longest budget, and one that is filled with zeros, before a value that is not looked at. -/
example : readTimeout [("grpc-timeout", .ofString "99999999H")] = .ok (some (.ofSecs 359999996400)) ∧
    readTimeout [("grpc-timeout", .ofString "00000250m"), ("grpc-timeout", .ofString "1n")] =
      .ok (some (.ofMillis 250)) := by
  decide

end IdentityClient.Grpc
