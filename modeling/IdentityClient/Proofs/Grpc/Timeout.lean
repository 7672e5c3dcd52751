import IdentityClient.Proofs.Grpc.Reading
import Mathlib.Data.Fintype.Basic

/-!
# Which headers state a budget

A budget is written as one to eight digits and a unit (`StatesBudget`, on the bytes of the header). All of these are
read, and beside them only those with a plus sign in front, which counts as one of the eight
(`timeout_isSome_iff`).
-/

namespace IdentityClient.Grpc

/-- One to eight ASCII digits, and then one of the units. -/
def StatesBudget (bs : Bytes) : Prop :=
  ∃ digits unit, bs = digits ++ [unit] ∧ 1 ≤ digits.length ∧ digits.length ≤ 8 ∧
    (∀ b ∈ digits, 0x30 ≤ b ∧ b ≤ 0x39) ∧ unit ∈ Utf8.encode "HMSmun"

variable {cs : List Char} {bs : Bytes} {d : Duration}

/-! ### Texts -/

theorem TimeUnit.ofChar?_eq_some_iff {c : Char} {u : TimeUnit} : ofChar? c = some u ↔ c = u.toChar := by
  constructor
  · unfold ofChar?
    split <;> rintro ⟨⟩ <;> rfl
  · rintro rfl
    exact ofChar?_toChar u

theorem decimal?_isSome_iff : (decimal? cs).isSome ↔ cs ≠ [] ∧ ∀ c ∈ cs, c.isDigit := by
  unfold decimal?
  split
  · rename_i h
    simp only [Bool.or_eq_true, List.isEmpty_iff, Bool.not_eq_true', List.all_eq_false] at h
    grind
  · rename_i h
    simp only [Bool.or_eq_true, List.isEmpty_iff, Bool.not_eq_true', List.all_eq_false] at h
    grind

/-- A number is a run of digits, or one after a plus sign. -/
theorem unsigned?_isSome_iff : (unsigned? cs).isSome ↔
    ∃ sign digits, cs = sign ++ digits ∧ (sign = [] ∨ sign = ['+']) ∧ digits ≠ [] ∧ ∀ c ∈ digits, c.isDigit := by
  unfold unsigned?
  split
  · rename_i digits
    rw [decimal?_isSome_iff]
    constructor
    · exact fun h => ⟨['+'], digits, rfl, .inr rfl, h⟩
    · rintro ⟨_, digits', same, rfl | rfl, h⟩
      · obtain rfl : '+' :: digits = digits' := same
        exact absurd (h.2 '+' List.mem_cons_self) (by decide)
      · obtain rfl : digits = digits' := (List.cons.inj same).2
        exact h
  · rename_i unsigned
    rw [decimal?_isSome_iff]
    constructor
    · exact fun h => ⟨[], cs, rfl, .inl rfl, h⟩
    · rintro ⟨_, digits, rfl, rfl | rfl, h⟩
      · exact h
      · exact absurd rfl (unsigned digits)

/-- A budget is a number of at most eight characters and a unit. -/
theorem timeoutOfText_eq_some_iff : timeoutOfText cs = some d ↔
    ∃ number, ∃ unit : TimeUnit, ∃ amount, cs = number ++ [unit.toChar] ∧
      (1 ≤ number.length ∧ number.length ≤ maxTimeoutDigits) ∧ unsigned? number = some amount ∧
        d = ⟨amount * unit.nanos⟩ := by
  unfold timeoutOfText
  constructor
  · intro h
    split at h
    · cases h
    · rename_i fits
      obtain ⟨unit, last, h⟩ := Option.bind_eq_some_iff.1 h
      obtain ⟨amount, read, h⟩ := Option.bind_eq_some_iff.1 h
      have filled : cs ≠ [] := by
        rintro rfl
        exact fits (.inl (by decide))
      rw [List.getLast?_eq_getLast_of_ne_nil filled, Option.getD_some, TimeUnit.ofChar?_eq_some_iff] at last
      refine ⟨cs.dropLast, unit, amount, ?_, ?_, read, (Option.some.inj h).symm⟩
      · rw [← last, List.dropLast_append_getLast filled]
      · rw [List.length_dropLast]
        omega
  · rintro ⟨number, unit, amount, rfl, ⟨lo, hi⟩, read, rfl⟩
    rw [if_neg (by simp only [List.length_append, List.length_singleton]; omega)]
    simp [read]

theorem timeoutOfText_isSome_iff : (timeoutOfText cs).isSome ↔
    ∃ number c, cs = number ++ [c] ∧ (1 ≤ number.length ∧ number.length ≤ 8) ∧ (unsigned? number).isSome ∧
      (TimeUnit.ofChar? c).isSome := by
  simp only [Option.isSome_iff_exists, timeoutOfText_eq_some_iff, TimeUnit.ofChar?_eq_some_iff]
  constructor
  · rintro ⟨d, number, unit, amount, rfl, fits, read, rfl⟩
    exact ⟨number, _, rfl, fits, ⟨amount, read⟩, unit, rfl⟩
  · rintro ⟨number, _, rfl, fits, ⟨amount, read⟩, unit, rfl⟩
    exact ⟨_, number, unit, amount, rfl, fits, read, rfl⟩

/-! ### Headers -/

/-- A byte as the character that it is shown as. -/
def charOfByte (b : UInt8) : Char := Char.ofNat b.toNat

theorem forall_byte {P : UInt8 → Prop} (h : ∀ n : Fin 256, P (UInt8.ofNat n)) (b : UInt8) : P b := by
  simpa using h ⟨b.toNat, b.toNat_lt⟩

theorem isDigit_charOfByte : ∀ b, (charOfByte b).isDigit ↔ 0x30 ≤ b ∧ b ≤ 0x39 :=
  forall_byte (by decide +kernel)

theorem charOfByte_eq_plus : ∀ b, charOfByte b = '+' ↔ b = 0x2b :=
  forall_byte (by decide +kernel)

theorem ofChar?_charOfByte : ∀ b, (TimeUnit.ofChar? (charOfByte b)).isSome ↔ b ∈ Utf8.encode "HMSmun" :=
  forall_byte (by decide +kernel)

/-- Digits, units and the plus sign are shown as text. -/
theorem isShown_of_budget : ∀ b, b = 0x2b ∨ (0x30 ≤ b ∧ b ≤ 0x39) ∨ b ∈ Utf8.encode "HMSmun" →
    HeaderValue.isShown b :=
  forall_byte (by decide +kernel)

/-- A header states a budget if all its bytes are shown and the text does. -/
theorem timeout_isSome_iff_text {headers : Headers} : (timeout headers).isSome ↔
    ∃ v, headers.get? timeoutHeader = some v ∧ (∀ b ∈ v.bytes, HeaderValue.isShown b) ∧
      (timeoutOfText (v.bytes.map charOfByte)).isSome := by
  rw [timeout_eq]
  unfold HeaderValue.toString?
  cases h : headers.get? timeoutHeader with
  | none => simp
  | some v =>
    simp only [Option.bind_some, Option.some.injEq, exists_eq_left', ← List.all_eq_true]
    by_cases shown : v.bytes.all HeaderValue.isShown
    · rw [if_pos shown, Option.bind_some, String.toList_ofList]
      exact (and_iff_right shown).symm
    · simp [shown]

/-- In bytes, a sign may stand before the digits, and counts among the eight. -/
theorem timeoutOfText_bytes_isSome_iff : (timeoutOfText (bs.map charOfByte)).isSome ↔
    StatesBudget bs ∨ ∃ rest, bs = 0x2b :: rest ∧ rest.length ≤ 8 ∧ StatesBudget rest := by
  rw [timeoutOfText_isSome_iff]
  constructor
  · rintro ⟨number, c, same, ⟨lo, hi⟩, read, isUnit⟩
    obtain ⟨front, last, rfl, rfl, ends⟩ := List.map_eq_append_iff.1 same
    obtain ⟨unit, rfl, rfl⟩ := List.map_eq_singleton_iff.1 ends
    rw [List.length_map] at lo hi
    rw [ofChar?_charOfByte] at isUnit
    obtain ⟨sign, digits, same, signed, filled, all⟩ := unsigned?_isSome_iff.1 read
    obtain ⟨sign, digits, rfl, rfl, rfl⟩ := List.map_eq_append_iff.1 same
    have all : ∀ b ∈ digits, 0x30 ≤ b ∧ b ≤ 0x39 := fun b hb =>
      (isDigit_charOfByte b).1 (all _ (List.mem_map_of_mem hb))
    have some_digit : 1 ≤ digits.length := by
      cases digits with
      | nil => exact absurd rfl filled
      | cons => simp
    rw [List.length_append] at hi
    rcases signed with unsigned | plus
    · obtain rfl := List.map_eq_nil_iff.1 unsigned
      exact .inl ⟨digits, unit, rfl, some_digit, by simpa using hi, all, isUnit⟩
    · obtain ⟨b, rfl, isPlus⟩ := List.map_eq_singleton_iff.1 plus
      obtain rfl := (charOfByte_eq_plus b).1 isPlus
      refine .inr ⟨digits ++ [unit], rfl, ?_, digits, unit, rfl, some_digit, ?_, all, isUnit⟩
      all_goals
        simp only [List.length_append, List.length_singleton] at hi ⊢
        omega
  · have digits_read {sign digits : Bytes} (signed : sign = [] ∨ sign = [0x2b]) (some_digit : 1 ≤ digits.length)
        (all : ∀ b ∈ digits, 0x30 ≤ b ∧ b ≤ 0x39) : (unsigned? ((sign ++ digits).map charOfByte)).isSome := by
      refine unsigned?_isSome_iff.2 ⟨sign.map charOfByte, digits.map charOfByte, List.map_append, ?_, ?_, ?_⟩
      · rcases signed with rfl | rfl
        · exact .inl rfl
        · exact .inr (congrArg (· :: []) ((charOfByte_eq_plus 0x2b).2 rfl))
      · rw [ne_eq, List.map_eq_nil_iff, ← List.length_eq_zero_iff]
        omega
      · simpa [isDigit_charOfByte] using all
    rintro (⟨digits, unit, rfl, lo, hi, all, isUnit⟩ | ⟨_, rfl, short, digits, unit, rfl, lo, hi, all, isUnit⟩)
    · refine ⟨digits.map charOfByte, charOfByte unit, by simp, by simpa using ⟨lo, hi⟩, ?_, ?_⟩
      · exact digits_read (.inl rfl) lo all
      · exact (ofChar?_charOfByte unit).2 isUnit
    · refine ⟨(0x2b :: digits).map charOfByte, charOfByte unit, by simp, ?_, ?_, ?_⟩
      · simpa using short
      · exact digits_read (.inr rfl) lo all
      · exact (ofChar?_charOfByte unit).2 isUnit

theorem StatesBudget.isShown (h : StatesBudget bs) : ∀ b ∈ bs, HeaderValue.isShown b := by
  obtain ⟨digits, unit, rfl, -, -, all, isUnit⟩ := h
  intro b hb
  rcases List.mem_append.1 hb with hb | hb
  · exact isShown_of_budget b (.inr (.inl (all b hb)))
  · obtain rfl := List.mem_singleton.1 hb
    exact isShown_of_budget b (.inr (.inr isUnit))

/-- A call has a budget exactly if the first value of the header states one, with no sign or with a plus sign that
leaves room for seven digits. -/
theorem timeout_isSome_iff (headers : Headers) : (timeout headers).isSome ↔
    ∃ v, headers.get? timeoutHeader = some v ∧
      (StatesBudget v.bytes ∨ ∃ rest, v.bytes = 0x2b :: rest ∧ rest.length ≤ 8 ∧ StatesBudget rest) := by
  rw [timeout_isSome_iff_text]
  simp only [timeoutOfText_bytes_isSome_iff]
  constructor
  · rintro ⟨v, first, -, states⟩
    exact ⟨v, first, states⟩
  · rintro ⟨v, first, states⟩
    refine ⟨v, first, ?_, states⟩
    rcases states with states | ⟨rest, same, -, states⟩
    · exact states.isShown
    · rw [same]
      exact List.forall_mem_cons.2 ⟨isShown_of_budget _ (.inl rfl), states.isShown⟩

/-- A budget after a plus sign is read, though it is none. -/
theorem timeout_of_plus : timeout [("grpc-timeout", .ofString "+5S")] = some (.ofSecs 5) ∧
    ¬ StatesBudget (HeaderValue.ofString "+5S").bytes := by
  refine ⟨rfl, ?_⟩
  rintro ⟨digits, unit, same, lo, -, all, -⟩
  cases digits with
  | nil => exact absurd lo (by decide)
  | cons b digits =>
    obtain rfl : 0x2b = b := (List.cons.inj same).1
    exact absurd (all _ List.mem_cons_self) (by decide)

end IdentityClient.Grpc
