import IdentityClient.Headers
import IdentityClient.Proofs.Text.Utf8

/-!
# Header values as text

A header value that is shown as text is ASCII, and the text is the one that its bytes encode (`HeaderValue.ascii_of_toString?`,
`HeaderValue.toString?_of_encode`).
-/

namespace IdentityClient.HeaderValue

variable {v : HeaderValue} {text : String} {b : UInt8} {n : Nat}

theorem toNat_of_isShown (shown : isShown b = true) : b.toNat < 0x80 ∧ (Char.ofNat b.toNat).toNat = b.toNat := by
  have low : b.toNat < 0x80 := by
    simp only [isShown, Bool.or_eq_true, Bool.and_eq_true, decide_eq_true_eq, beq_iff_eq] at shown
    rcases shown with ⟨-, lt⟩ | rfl
    · exact Nat.lt_succ_of_lt lt
    · decide
  refine ⟨low, ?_⟩
  rw [Char.ofNat, dif_pos (.inl (by omega))]
  rfl

theorem isShown_ofNat (low : 0x20 ≤ n) (high : n < 0x7f) : isShown (UInt8.ofNat n) = true := by
  have all : ∀ n < 0x7f, 0x20 ≤ n → isShown (UInt8.ofNat n) = true := by decide
  exact all n high low

/-- Only ASCII is shown as text, byte by byte. -/
theorem ascii_of_toString? (read : v.toString? = some text) :
    (∀ c ∈ text.toList, c.toNat < 0x80) ∧ v.bytes = Utf8.encode text := by
  unfold toString? at read
  split at read
  · rename_i shown
    rw [List.all_eq_true] at shown
    cases read
    have chars : ∀ c ∈ v.bytes.map fun b => Char.ofNat b.toNat, c.toNat < 0x80 := by
      rw [List.forall_mem_map]
      intro b hb
      rw [(toNat_of_isShown (shown b hb)).2]
      exact (toNat_of_isShown (shown b hb)).1
    rw [Utf8.encode, String.toList_ofList, Utf8.encodeChars_of_ascii chars, List.map_map]
    refine ⟨chars, ?_⟩
    calc v.bytes
      _ = v.bytes.map id := (List.map_id _).symm
      _ = v.bytes.map ((fun c => UInt8.ofNat c.toNat) ∘ fun b => Char.ofNat b.toNat) := by
        refine List.map_congr_left fun b hb => ?_
        rw [Function.comp_apply, (toNat_of_isShown (shown b hb)).2, UInt8.ofNat_toNat, id]
  · cases read

/-- A value that is shown as text is shown as the text that its bytes encode. -/
theorem toString?_of_encode (shown : ∀ b ∈ v.bytes, isShown b = true) (written : v.bytes = Utf8.encode text) :
    v.toString? = some text := by
  obtain ⟨text', read⟩ : ∃ text', v.toString? = some text' := ⟨_, if_pos (List.all_eq_true.2 shown)⟩
  have same : Utf8.encodeChars text'.toList = Utf8.encodeChars text.toList :=
    (ascii_of_toString? read).2.symm.trans written
  have chars := Utf8.decodeChars_encodeChars text'.toList
  rw [same, Utf8.decodeChars_encodeChars] at chars
  rw [read, String.toList_injective (Except.ok.inj chars)]

end IdentityClient.HeaderValue
