import IdentityClient.Net.Url.Percent
import IdentityClient.Proofs.Text.Utf8

/-!
# Percent encoding read back

Bytes that were percent-encoded are read again (`decode_encodeBytes`); what is no percent sign stands for itself.
-/

namespace IdentityClient

namespace Percent

variable {c : Char} {cs rest : List Char} {n : Nat}

theorem upperDigit_spec (h : n < 16) : Hex.value? (upperDigit n) = some n ∧ (upperDigit n).isAlphanum = true := by
  have all : ∀ n < 16, Hex.value? (upperDigit n) = some n ∧ (upperDigit n).isAlphanum = true := by decide
  exact all n h

theorem decode_encodeByte (b : UInt8) (rest : List Char) : decode (encodeByte b ++ rest) = b :: decode rest := by
  have small := b.toNat_lt
  have back : UInt8.ofNat (b.toNat / 16 * 16 + b.toNat % 16) = b := by
    rw [Nat.div_add_mod', UInt8.ofNat_toNat]
  show decode ('%' :: upperDigit (b.toNat / 16) :: upperDigit (b.toNat % 16) :: rest) = _
  simp only [decode, (upperDigit_spec (n := b.toNat / 16) (by omega)).1, (upperDigit_spec (n := b.toNat % 16) (by omega)).1,
    back]

theorem decode_encodeBytes (bytes : Bytes) (rest : List Char) :
    decode (bytes.flatMap encodeByte ++ rest) = bytes ++ decode rest := by
  induction bytes with
  | nil => rfl
  | cons b bytes ih => rw [List.flatMap_cons, List.append_assoc, decode_encodeByte, ih, List.cons_append]

theorem decode_cons (plain : c ≠ '%') (rest : List Char) :
    decode (c :: rest) = String.utf8EncodeChar c ++ decode rest := by
  rw [decode]
  rintro a b rest rfl
  exact absurd rfl plain

/-- Without percent signs a text stands for its own bytes. -/
theorem decode_of_not_mem (plain : '%' ∉ cs) : decode cs = Utf8.encodeChars cs := by
  induction cs with
  | nil => rw [decode]; rfl
  | cons c cs ih =>
    obtain ⟨hc, hcs⟩ := not_or.1 (mt List.mem_cons.2 plain)
    rw [decode_cons (Ne.symm hc), ih hcs, Utf8.encodeChars_cons]

theorem mem_encodeBytes {bytes : Bytes} (h : c ∈ bytes.flatMap encodeByte) : c = '%' ∨ c.isAlphanum = true := by
  obtain ⟨b, -, h⟩ := List.mem_flatMap.1 h
  have small := b.toNat_lt
  simp only [encodeByte, List.mem_cons, List.not_mem_nil, or_false] at h
  rcases h with rfl | rfl | rfl
  · exact .inl rfl
  · exact .inr (upperDigit_spec (by omega)).2
  · exact .inr (upperDigit_spec (by omega)).2

end Percent

end IdentityClient
