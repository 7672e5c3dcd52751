import IdentityClient.Crypto.Rsa
import Mathlib.FieldTheory.Finite.Basic

/-!
# Keys whose parts belong together sign every message

A signature is given out only if the public exponent leads back to what was signed. For a key whose parts belong together
(`PrivateKey.Proper`) it always does: the private operation is the inverse of the public one for each prime, by Fermat's
little theorem, and so for their product.
-/

namespace IdentityClient.Rsa

variable {p k m n : Nat} {bytes message : Bytes} {key : PrivateKey}

theorem pow_modEq_self (prime : p.Prime) (pos : 0 < k) (h : k ≡ 1 [MOD p - 1]) (m : Nat) : m ^ k ≡ m [MOD p] := by
  have := Fact.mk prime
  obtain ⟨j, hj⟩ := (Nat.modEq_iff_dvd' pos).1 h.symm
  have split : k = 1 + (p - 1) * j := by omega
  rw [← ZMod.natCast_eq_natCast_iff, Nat.cast_pow, split]
  by_cases zero : (m : ZMod p) = 0
  · rw [zero, zero_pow (by omega)]
  · rw [pow_add, pow_mul, ZMod.pow_card_sub_one_eq_one zero, one_pow, pow_one, mul_one]

theorem powMod_modEq (m e p : Nat) : powMod (m % p) e p ≡ m ^ e [MOD p] := by
  rw [powMod_eq]
  exact (Nat.mod_modEq _ _).trans ((Nat.mod_modEq m p).pow e)

namespace PrivateKey

/-- Modulus and exponents are those of two primes. -/
structure Proper (key : PrivateKey) : Prop where
  modulus : key.publicKey.modulus = key.p * key.q
  primeP : key.p.Prime
  primeQ : key.q.Prime
  inverse : key.inverse * key.q ≡ 1 [MOD key.p]
  exponentP : key.publicKey.exponent * key.exponentP ≡ 1 [MOD key.p - 1]
  exponentQ : key.publicKey.exponent * key.exponentQ ≡ 1 [MOD key.q - 1]
  exponentP_pos : 0 < key.publicKey.exponent * key.exponentP
  exponentQ_pos : 0 < key.publicKey.exponent * key.exponentQ

namespace Proper

theorem apply_modEq_q (key : PrivateKey) (m : Nat) : key.apply m ≡ m ^ key.exponentQ [MOD key.q] := by
  have multiple (b x : Nat) : b + x * key.q ≡ b [MOD key.q] := by
    simp [Nat.ModEq]
  exact (multiple _ _).trans (powMod_modEq ..)

theorem apply_modEq_p (proper : key.Proper) (m : Nat) : key.apply m ≡ m ^ key.exponentP [MOD key.p] := by
  refine Nat.ModEq.trans ?_ (powMod_modEq m key.exponentP key.p)
  rw [apply]
  generalize powMod (m % key.p) key.exponentP key.p = a
  generalize powMod (m % key.q) key.exponentQ key.q = b
  have below : b % key.p < key.p := Nat.mod_lt _ proper.primeP.pos
  calc b + (a + (key.p - b % key.p)) * key.inverse % key.p * key.q
      ≡ b + (a + (key.p - b % key.p)) * key.inverse * key.q [MOD key.p] :=
        ((Nat.mod_modEq _ _).mul_right _).add_left _
    _ = b + (a + (key.p - b % key.p)) * (key.inverse * key.q) := by rw [Nat.mul_assoc]
    _ ≡ b % key.p + (a + (key.p - b % key.p)) * 1 [MOD key.p] :=
        (Nat.mod_modEq _ _).symm.add (proper.inverse.mul_left _)
    _ = a + key.p := by omega
    _ ≡ a [MOD key.p] := by simp [Nat.ModEq]

theorem pow_apply (proper : key.Proper) (m : Nat) :
    key.apply m ^ key.publicKey.exponent ≡ m [MOD key.publicKey.modulus] := by
  have coprime : Nat.Coprime key.p key.q := by
    have unit : Nat.Coprime (key.inverse * key.q) key.p := by
      rw [Nat.Coprime, proper.inverse.gcd_eq, Nat.gcd_one_left]
    exact unit.coprime_mul_left.symm
  rw [proper.modulus, ← Nat.modEq_and_modEq_iff_modEq_mul coprime]
  constructor
  · have back := pow_modEq_self proper.primeP proper.exponentP_pos proper.exponentP m
    refine ((proper.apply_modEq_p m).pow _).trans ?_
    rwa [← pow_mul, Nat.mul_comm]
  · have back := pow_modEq_self proper.primeQ proper.exponentQ_pos proper.exponentQ m
    refine ((apply_modEq_q key m).pow _).trans ?_
    rwa [← pow_mul, Nat.mul_comm]

end Proper

end PrivateKey

/-! ### What is signed -/

theorem ofBytes_append_singleton (bytes : Bytes) (b : UInt8) :
    ofBytes (bytes ++ [b]) = ofBytes bytes * 256 + b.toNat := by
  simp [ofBytes]

theorem ofBytes_lt (bytes : Bytes) : ofBytes bytes < 256 ^ bytes.length := by
  induction bytes using List.reverseRecOn with
  | nil => exact Nat.one_pos
  | append_singleton bytes b ih =>
    have small := b.toNat_lt
    rw [ofBytes_append_singleton, List.length_append, List.length_singleton, Nat.pow_succ]
    omega

theorem ofBytes_zero_cons (bytes : Bytes) : ofBytes (0 :: bytes) = ofBytes bytes := rfl

theorem pow_le_of_byteLength (h : byteLength n = k + 1) : 256 ^ k ≤ n := by
  have positive : n ≠ 0 := by
    rintro rfl
    cases h
  have bits : 8 * k ≤ n.log2 := by
    simp only [byteLength, bitLength, if_neg positive] at h
    omega
  calc 256 ^ k = 2 ^ (8 * k) := by rw [Nat.pow_mul]
    _ ≤ 2 ^ n.log2 := Nat.pow_le_pow_right (by decide) bits
    _ ≤ n := Nat.log2_self_le positive

/-- What is signed starts with a zero, and is as long as the modulus. -/
theorem representative_lt (key : PublicKey) (message : Bytes) (long : 54 ≤ byteLength key.modulus) :
    representative key message < key.modulus := by
  obtain ⟨k, length⟩ : ∃ k, byteLength key.modulus = k + 1 := ⟨byteLength key.modulus - 1, by omega⟩
  have tail : (digestHeader ++ Sha256.digest message).length = 51 := by
    rw [List.length_append, Sha256.length_digest]
    rfl
  obtain ⟨rest, text, rest_length⟩ : ∃ rest, padded (byteLength key.modulus) message = 0 :: rest ∧ rest.length = k := by
    refine ⟨1 :: (List.replicate (byteLength key.modulus - (digestHeader ++ Sha256.digest message).length - 3) 0xff ++
      0 :: (digestHeader ++ Sha256.digest message)), by simp [padded], ?_⟩
    rw [List.length_cons, List.length_append, List.length_replicate, List.length_cons, tail]
    omega
  calc representative key message = ofBytes rest := by rw [representative, text, ofBytes_zero_cons]
    _ < 256 ^ rest.length := ofBytes_lt rest
    _ = 256 ^ k := by rw [rest_length]
    _ ≤ key.modulus := pow_le_of_byteLength length

/-! ### Keys that are read -/

section

variable {ε α β : Type} {b : β}

theorem ok_of_bind {x : Except ε α} {f : α → Except ε β} (h : (x >>= f) = .ok b) : ∃ a, x = .ok a ∧ f a = .ok b := by
  cases x with
  | error e => cases h
  | ok a => exact ⟨a, rfl, h⟩

theorem ok_of_guard {c : Prop} [Decidable c] {e : ε} {f : α → Except ε β} {y : Except ε β}
    (h : (if c then ((throw e : Except ε α) >>= f) else y) = .ok b) : ¬ c ∧ y = .ok b := by
  split at h
  · cases h
  · exact ⟨‹_›, h⟩

end

theorem PublicKey.le_of_ofParts {low high least : Nat} {modulus exponent : Bytes} {key : PublicKey}
    (made : ofParts low high least modulus exponent = .ok key) : low ≤ byteLength key.modulus * 8 := by
  obtain ⟨n, -, made⟩ := ok_of_bind made
  obtain ⟨short, made⟩ := ok_of_guard made
  obtain ⟨-, made⟩ := ok_of_guard made
  obtain ⟨e, -, made⟩ := ok_of_bind made
  cases made
  exact Nat.not_lt.1 short

theorem PrivateKey.byteLength_of_ofParts {parts : List Bytes} (made : ofParts parts = .ok key) :
    256 ≤ byteLength key.publicKey.modulus := by
  unfold ofParts at made
  split at made
  · obtain ⟨publicKey, read, made⟩ := ok_of_bind made
    have long := PublicKey.le_of_ofParts read
    obtain ⟨p, -, made⟩ := ok_of_bind made
    obtain ⟨q, -, made⟩ := ok_of_bind made
    obtain ⟨-, made⟩ := ok_of_guard made
    obtain ⟨d, -, made⟩ := ok_of_bind made
    obtain ⟨-, made⟩ := ok_of_guard made
    obtain ⟨-, made⟩ := ok_of_guard made
    obtain ⟨-, made⟩ := ok_of_guard made
    obtain ⟨-, made⟩ := ok_of_guard made
    obtain ⟨dP, -, made⟩ := ok_of_bind made
    obtain ⟨dQ, -, made⟩ := ok_of_bind made
    have enough : 256 ≤ byteLength publicKey.modulus := by omega
    cases made
    exact enough
  · cases made

theorem PrivateKey.byteLength_of_parse (parsed : parse bytes = .ok key) : 256 ≤ byteLength key.publicKey.modulus := by
  unfold parse at parsed
  split at parsed
  · cases parsed
  · split at parsed
    · split at parsed
      · cases parsed
      · split at parsed
        · cases parsed
        · split at parsed
          · cases parsed
          · rename_i made
            split at parsed <;> cases parsed
            exact byteLength_of_ofParts made
    · cases parsed

/-- A key that is read, with parts that belong together, signs every message. -/
theorem PrivateKey.Proper.exists_sign (proper : key.Proper) (parsed : parse bytes = .ok key) (message : Bytes) :
    ∃ signature, key.sign message = some signature := by
  have long : 54 ≤ byteLength key.publicKey.modulus := Nat.le_trans (by decide) (byteLength_of_parse parsed)
  have back : powMod (key.apply (representative key.publicKey message)) key.publicKey.exponent key.publicKey.modulus =
      representative key.publicKey message := by
    rw [powMod_eq]
    exact Nat.mod_eq_of_modEq (proper.pow_apply _) (representative_lt _ _ long)
  have number : key.signNumber message = some (key.apply (representative key.publicKey message)) := if_pos back
  exact ⟨_, by rw [sign, number]; rfl⟩

end IdentityClient.Rsa
