import IdentityClient.Net.BasicCredentials
import IdentityClient.Proofs.Text.Utf8

/-!
# Whom a header value names

A header value stands for the text `user:password` and for no other (`header_eq_iff`). The text does not say which of its
colons is the mark between the two, so a reader takes the first: a user without a colon is read back with the password
(`ofHeader?_eq_iff`), any other loses what follows its first colon to the password. Two clients send the same value
exactly if one's user is the other's with colons and more behind it, taken from the password (`eq_iff_count`).
-/

namespace IdentityClient

namespace BasicCredentials

variable {c d : BasicCredentials}

/-- The credentials that a header value is read as. -/
def ofHeader? (v : HeaderValue) : Option BasicCredentials := (Utf8.decodeChars v.bytes).toOption.bind read?

/-! ### The text in a value -/

theorem encode_injective (same : c.encode = d.encode) : c.joined = d.joined := by
  have digits := List.append_cancel_left same
  have bytes : some (Utf8.encodeChars c.joined) = some (Utf8.encodeChars d.joined) := by
    rw [← Base64.decode_encode .standard, digits, Base64.decode_encode]
  have read := Utf8.decodeChars_encodeChars c.joined
  rw [Option.some.inj bytes, Utf8.decodeChars_encodeChars] at read
  exact (Except.ok.inj read).symm

theorem header_eq_iff : c.header = d.header ↔ c.joined = d.joined := by
  constructor
  · intro same
    have bytes : Utf8.encodeChars c.encode = Utf8.encodeChars d.encode := congrArg HeaderValue.bytes same
    refine encode_injective (Except.ok.inj (ε := Utf8.Fault) ?_)
    rw [← Utf8.decodeChars_encodeChars c.encode, bytes, Utf8.decodeChars_encodeChars]
  · intro same
    rw [header, encode, same]
    rfl

/-- The text is cut at its first colon. -/
theorem ofHeader?_of_first {user rest : List Char} (first : c.joined = user ++ ':' :: rest) (plain : ':' ∉ user) :
    ofHeader? c.header = some ⟨String.ofList user, String.ofList rest⟩ := by
  have keyword_read : c.encode.take keyword.length = keyword := List.take_left
  have digits : c.encode.drop keyword.length = Base64.encode .standard (Utf8.encodeChars c.joined) := List.drop_left
  have read : ofHeader? c.header = read? c.encode := by
    rw [ofHeader?, header, Utf8.decodeChars_encodeChars]
    rfl
  have before : ∀ x ∈ user, (x != ':') = true := by
    intro x hx
    have : x ≠ ':' := by
      rintro rfl
      exact plain hx
    simpa using this
  rw [read, read?, if_pos keyword_read, digits, Base64.decode_encode]
  dsimp only
  rw [Utf8.decodeChars_encodeChars]
  dsimp only
  rw [first, List.takeWhile_append_of_pos before, List.dropWhile_append_of_pos before]
  simp

/-! ### Users and colons -/

/-- A user without a colon is read back, with the password. -/
theorem ofHeader?_of_plain (plain : ':' ∉ c.user.toList) : ofHeader? c.header = some c := by
  rw [ofHeader?_of_first rfl plain, String.ofList_toList, String.ofList_toList]

/-- Of a user with a colon only what stands before it is read; the rest counts as the password's. -/
theorem ofHeader?_of_colon {user rest : List Char} (cut : c.user.toList = user ++ ':' :: rest) (plain : ':' ∉ user) :
    ofHeader? c.header = some ⟨String.ofList user, String.ofList (rest ++ ':' :: c.password.toList)⟩ := by
  refine ofHeader?_of_first ?_ plain
  rw [joined, cut, List.append_assoc, List.cons_append]

theorem exists_first_colon {cs : List Char} (h : ':' ∈ cs) : ∃ user rest, cs = user ++ ':' :: rest ∧ ':' ∉ user := by
  obtain ⟨user, rest, cut, plain⟩ := List.eq_append_cons_of_mem h
  exact ⟨user, rest, cut, plain⟩

theorem ofHeader?_eq_iff : ofHeader? c.header = some c ↔ ':' ∉ c.user.toList := by
  refine ⟨fun read colon => ?_, ofHeader?_of_plain⟩
  obtain ⟨user, rest, cut, plain⟩ := exists_first_colon colon
  rw [ofHeader?_of_colon cut plain] at read
  have user_eq : c.user = String.ofList user := (congrArg BasicCredentials.user (Option.some.inj read)).symm
  rw [user_eq, String.toList_ofList] at colon
  exact plain colon

/-- Of two clients with the same value, one's user goes on where the other's ends. -/
theorem user_le_or_le (same : c.joined = d.joined) : c = d ∨
    (∃ rest, d.user.toList = c.user.toList ++ ':' :: rest) ∨ ∃ rest, c.user.toList = d.user.toList ++ ':' :: rest := by
  rcases List.append_eq_append_iff.1 same with ⟨more, longer, rest⟩ | ⟨more, longer, rest⟩
  all_goals cases more with
    | nil =>
      left
      rw [List.append_nil] at longer
      obtain ⟨user, password⟩ := c
      obtain ⟨user', password'⟩ := d
      simp_all [String.toList_inj]
    | cons mark more =>
      obtain ⟨rfl, rest⟩ := List.cons.inj rest
      simp [longer]

/-- Clients whose users hold equally many colons are told apart by the value that they send. -/
theorem eq_iff_count (same : c.header = d.header) : c = d ↔ c.user.toList.count ':' = d.user.toList.count ':' := by
  constructor
  · rintro rfl
    rfl
  · intro count
    rcases user_le_or_le (header_eq_iff.1 same) with rfl | ⟨rest, longer⟩ | ⟨rest, longer⟩
    · rfl
    · rw [longer, List.count_append, List.count_cons_self] at count
      omega
    · rw [longer, List.count_append, List.count_cons_self] at count
      omega

end BasicCredentials

end IdentityClient
