import IdentityClient.Net.Form
import IdentityClient.Proofs.Net.Ipv4
import IdentityClient.Proofs.Net.Percent

/-!
# Posted forms read back

A form that was written is read as the pairs that were written, whatever their characters (`Form.decode_encode`): a
space becomes a plus sign and each plus sign is percent-encoded, so neither is taken for the other, and the marks between
names, values and pairs never stand inside one (`Form.mem_encodeText`).
-/

namespace IdentityClient

namespace Form

variable {c : Char} {cs : List Char} {s : String} {pairs : List (String × String)}

/-! ### Names and values -/

theorem ne_of_isPlain (plain : isPlain c = true) : c ≠ '+' ∧ c ≠ '%' ∧ c ≠ '&' ∧ c ≠ '=' := by
  refine ⟨?_, ?_, ?_, ?_⟩
  all_goals rintro rfl
  all_goals exact absurd plain (by decide)

/-- What a written name or value may hold. -/
theorem mem_encodeText (h : c ∈ encodeText s) : c = '+' ∨ c = '%' ∨ isPlain c = true := by
  obtain ⟨d, -, h⟩ := List.mem_flatMap.1 h
  unfold encodeChar at h
  split at h
  · exact .inl (List.mem_singleton.1 h)
  · unfold Percent.encodeChar at h
    split at h
    · rcases Percent.mem_encodeBytes h with rfl | digit
      · exact .inr (.inl rfl)
      · exact .inr (.inr (by simp [isPlain, digit]))
    · rename_i plain
      obtain rfl := List.mem_singleton.1 h
      exact .inr (.inr (by simpa using plain))

theorem not_mem_encodeText {mark : Char} (h : mark = '&' ∨ mark = '=') : mark ∉ encodeText s := by
  intro hc
  rcases mem_encodeText hc with rfl | rfl | plain
  · rcases h with h | h <;> exact absurd h (by decide)
  · rcases h with h | h <;> exact absurd h (by decide)
  · obtain ⟨-, -, ampersand, equals⟩ := ne_of_isPlain plain
    exact h.elim ampersand equals

/-- Plus signs are spaces. -/
def spaced (cs : List Char) : List Char := cs.map fun c => if c = '+' then ' ' else c

theorem spaced_encodeBytes (bytes : Bytes) :
    spaced (bytes.flatMap Percent.encodeByte) = bytes.flatMap Percent.encodeByte := by
  refine (List.map_congr_left fun c hc => ?_).trans (List.map_id _)
  refine if_neg ?_
  rintro rfl
  rcases Percent.mem_encodeBytes hc with h | h <;> exact absurd h (by decide)

theorem decode_spaced_encodeChar (c : Char) (rest : List Char) :
    Percent.decode (spaced (encodeChar c) ++ rest) = String.utf8EncodeChar c ++ Percent.decode rest := by
  unfold encodeChar
  split
  · rename_i blank
    subst blank
    exact Percent.decode_cons (by decide) rest
  · unfold Percent.encodeChar
    split
    · rw [spaced_encodeBytes, Percent.decode_encodeBytes]
    · rename_i plain
      obtain ⟨plus, percent, -⟩ := ne_of_isPlain (c := c) (by simpa using plain)
      rw [spaced, List.map_singleton, if_neg plus]
      exact Percent.decode_cons percent rest

theorem decodeText_encodeText (s : String) : decodeText (encodeText s) = s := by
  have bytes (cs : List Char) : Percent.decode (spaced (cs.flatMap encodeChar)) = Utf8.encodeChars cs := by
    induction cs with
    | nil => rw [List.flatMap_nil, spaced, List.map_nil, Percent.decode]; rfl
    | cons c cs ih =>
      rw [List.flatMap_cons, spaced, List.map_append, ← spaced, ← spaced, decode_spaced_encodeChar, ih,
        Utf8.encodeChars_cons]
  rw [decodeText, ← spaced, encodeText, bytes]
  exact Utf8.decodeLossy_encode s

/-! ### Pairs -/

theorem decodePair_encodePair (p : String × String) : decodePair (encodePair p) = p := by
  have name : ∀ c ∈ encodeText p.1, (c != '=') = true := by
    intro c hc
    have : c ≠ '=' := by
      rintro rfl
      exact not_mem_encodeText (.inr rfl) hc
    simpa using this
  rw [decodePair, encodePair, List.takeWhile_append_of_pos name, List.dropWhile_append_of_pos name]
  simp [decodeText_encodeText]

theorem not_mem_encodePair (p : String × String) : '&' ∉ encodePair p := by
  simp [encodePair, not_mem_encodeText]

theorem cut_eq (cs : List Char) : cut cs = cs.splitOn '&' := eq_splitOn rfl (fun _ _ => rfl) cs

/-- Reading what was written gives it back. -/
theorem decode_encode (pairs : List (String × String)) : decode (encode pairs) = pairs := by
  cases pairs with
  | nil => rfl
  | cons p pairs =>
    have marks : ∀ part ∈ (p :: pairs).map encodePair, '&' ∉ part := by
      intro part hp
      obtain ⟨q, -, rfl⟩ := List.mem_map.1 hp
      exact not_mem_encodePair q
    have filled : ∀ part ∈ (p :: pairs).map encodePair, (!part.isEmpty) = true := by
      intro part hp
      obtain ⟨q, -, rfl⟩ := List.mem_map.1 hp
      simp [encodePair]
    rw [decode, encode, cut_eq, List.splitOn_intercalate '&' marks (by simp), List.filter_eq_self.2 filled,
      List.map_map]
    exact (List.map_congr_left fun q _ => decodePair_encodePair q).trans (List.map_id _)

end Form

end IdentityClient
