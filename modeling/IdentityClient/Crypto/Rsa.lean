import IdentityClient.Crypto.KeyFault
import IdentityClient.Crypto.Sha256

/-!
# RSA signatures

Keys are read strictly from their distinguished encoding, and the parts of a private key must fit
together. A signature is the padded digest, raised to the private exponent by way of the two primes; it
is only given out if the public exponent leads back (`pow_signNumber`).
-/

namespace IdentityClient.Rsa

structure PublicKey where
  modulus : Nat
  exponent : Nat
  deriving DecidableEq, Repr

structure PrivateKey where
  publicKey : PublicKey
  p : Nat
  q : Nat
  /-- The private exponent, reduced for each prime. -/
  exponentP : Nat
  exponentQ : Nat
  /-- The inverse of `q` modulo `p`. -/
  inverse : Nat
  deriving DecidableEq, Repr

/-! ### Arithmetic -/

/-- The remainder of a power, by squaring. -/
def powMod (b e m : Nat) : Nat :=
  if e = 0 then 1 % m
  else
    let half := powMod b (e / 2) m
    let square := half * half % m
    if e % 2 = 0 then square else square * b % m
termination_by e
decreasing_by omega

theorem pow_add_self (b k : Nat) : Nat.pow b (k + k) = Nat.pow b k * Nat.pow b k := Nat.pow_add b k k

theorem powMod_eq (b e m : Nat) : powMod b e m = Nat.pow b e % m := by
  induction e using Nat.strongRecOn with
  | ind e ih =>
    rw [powMod]
    split
    · rename_i h
      rw [h]; rfl
    · rename_i h
      rw [ih (e / 2) (by omega)]
      split
      · have e2 : e = e / 2 + e / 2 := by omega
        rw [(congrArg (Nat.pow b) e2).trans (pow_add_self b _)]
        exact (Nat.mul_mod _ _ _).symm
      · have e2 : e = e / 2 + e / 2 + 1 := by omega
        have p : Nat.pow b e = Nat.pow b (e / 2 + e / 2) * b := congrArg (Nat.pow b) e2
        rw [p, pow_add_self]
        dsimp only
        rw [← Nat.mul_mod, Nat.mod_mul_mod]

/-- How many bits a number has. -/
def bitLength (n : Nat) : Nat := if n = 0 then 0 else n.log2 + 1

/-- How many bytes a number has. -/
def byteLength (n : Nat) : Nat := (bitLength n + 7) / 8

/-- The number that bytes make, the highest first. -/
def ofBytes (bytes : Bytes) : Nat := bytes.foldl (fun n b => n * 256 + b.toNat) 0

/-! ### Reading keys -/

/-- A value with the given tag, whose length is spelt in the shortest way: its body and the rest. -/
def readValue? (tag : UInt8) : Bytes → Option (Bytes × Bytes)
  | t :: n :: rest =>
    let body (length : Nat) (rest : Bytes) : Option (Bytes × Bytes) :=
      if t ≠ tag ∨ rest.length < length then none else some (rest.take length, rest.drop length)
    if n < 0x80 then body n.toNat rest
    else match n, rest with
      | 0x81, a :: rest => if a < 0x80 then none else body a.toNat rest
      | 0x82, a :: b :: rest =>
        let length := a.toNat * 256 + b.toNat
        if length < 256 then none else body length rest
      | _, _ => none
  | _ => none

/-- A number that is not negative and spelt in the shortest way, without the zero before it. -/
def readNumber? (bytes : Bytes) : Option (Bytes × Bytes) := do
  let (body, rest) ← readValue? 0x02 bytes
  match body with
  | [] => none
  | [0] => some ([0], rest)
  | 0 :: b :: more => if b < 0x80 then none else some (b :: more, rest)
  | b :: more => if b < 0x80 then some (b :: more, rest) else none

/-- Several numbers in a row. -/
def readNumbers? : (count : Nat) → Bytes → Option (List Bytes × Bytes)
  | 0, bytes => some ([], bytes)
  | n + 1, bytes => do
    let (first, rest) ← readNumber? bytes
    let (more, rest) ← readNumbers? n rest
    some (first :: more, rest)

/-- An odd number of four words to 8192 bits, as moduli are. -/
def readModulus (bytes : Bytes) : Except RsaKeyFault Nat :=
  let words := (bytes.length + 7) / 8
  if words < 4 then .error .unexpected
  else if 128 < words then .error .tooLarge
  else if bytes.head? == some 0 then .error .invalidEncoding
  else if ofBytes bytes % 2 = 0 then .error .invalidComponent
  else .ok (ofBytes bytes)

/-- An odd public exponent of at most 33 bits, at least `least`. -/
def readExponent (least : Nat) (bytes : Bytes) : Except RsaKeyFault Nat :=
  let n := ofBytes bytes
  if 5 < bytes.length then .error .tooLarge
  else if bytes.head? == some 0 then .error .invalidEncoding
  else if n < least then .error .tooSmall
  else if Nat.pow 2 33 ≤ n then .error .tooLarge
  else if n % 2 = 0 then .error .invalidComponent
  else .ok n

/-- A public key whose modulus has from `low` to `high` bits, counted in whole bytes below. -/
def PublicKey.ofParts (low high least : Nat) (modulus exponent : Bytes) : Except RsaKeyFault PublicKey := do
  let n ← readModulus modulus
  if byteLength n * 8 < low then throw .tooSmall
  if high < bitLength n then throw .tooLarge
  let e ← readExponent least exponent
  pure ⟨n, e⟩

/-- A prime of half the modulus's length. -/
def readPrime (modulus : Nat) (bytes : Bytes) : Except RsaKeyFault Nat := do
  let p ← readModulus bytes
  if bitLength p ≠ (bitLength modulus + 1) / 2 then throw .inconsistentComponents
  if bitLength p % 512 ≠ 0 then throw .oddPrimeLength
  pure p

/-- A private exponent for one prime: odd and less than the prime. -/
def readPart (prime : Nat) (bytes : Bytes) : Except RsaKeyFault Nat :=
  let n := ofBytes bytes
  if n < prime ∧ n % 2 = 1 then .ok n else .error .inconsistentComponents

/-- Checks that the parts of a private key fit together. -/
def PrivateKey.ofParts (parts : List Bytes) : Except RsaKeyFault PrivateKey :=
  match parts with
  | [modulus, exponent, d, p, q, dP, dQ, inverse] => do
    let key ← PublicKey.ofParts 2048 4096 65537 modulus exponent
    let p ← readPrime key.modulus p
    let q ← readPrime key.modulus q
    if p * q % key.modulus ≠ 0 then throw .inconsistentComponents
    let d ← (readModulus d).mapError fun _ => .invalidComponent
    if bitLength d ≤ (bitLength key.modulus + 1) / 2 then throw .inconsistentComponents
    if key.modulus ≤ d then throw .inconsistentComponents
    if p ≤ ofBytes inverse then throw .invalidComponent
    if ofBytes inverse * q % p ≠ 1 then throw .inconsistentComponents
    let dP ← readPart p dP
    let dQ ← readPart q dQ
    pure ⟨key, p, q, dP, dQ, ofBytes inverse⟩
  | _ => .error .invalidEncoding

/-- Reads a private key: a sequence of a version, which is zero, and eight numbers. -/
def PrivateKey.parse (bytes : Bytes) : Except RsaKeyFault PrivateKey :=
  match readValue? 0x30 bytes with
  | none => .error .invalidEncoding
  | some (body, behind) =>
    match readNumber? body with
    | some ([version], rest) =>
      if version ≠ 0 then .error .versionNotSupported
      else match readNumbers? 8 rest with
        | none => .error .invalidEncoding
        | some (parts, rest) =>
          match PrivateKey.ofParts parts with
          | .error e => .error e
          | .ok key => if rest.isEmpty && behind.isEmpty then .ok key else .error .invalidEncoding
    | _ => .error .invalidEncoding

/-- Reads a public key: a sequence of the modulus and the exponent. -/
def PublicKey.parse (bytes : Bytes) : Except RsaKeyFault PublicKey :=
  match readValue? 0x30 bytes with
  | some (body, []) =>
    match readNumbers? 2 body with
    | some ([modulus, exponent], []) => PublicKey.ofParts 2048 8192 3 modulus exponent
    | _ => .error .invalidEncoding
  | _ => .error .invalidEncoding

/-! ### Signatures -/

/-- What says that a digest is one of SHA-256. -/
def digestHeader : Bytes :=
  [0x30, 0x31, 0x30, 0x0d, 0x06, 0x09, 0x60, 0x86, 0x48, 0x01, 0x65, 0x03, 0x04, 0x02, 0x01, 0x05, 0x00,
    0x04, 0x20]

/-- The digest of a message, filled up to `length` bytes. -/
def padded (length : Nat) (message : Bytes) : Bytes :=
  let tail := digestHeader ++ Sha256.digest message
  [0x00, 0x01] ++ List.replicate (length - tail.length - 3) 0xff ++ [0x00] ++ tail

/-- The number that is signed for a message. -/
def representative (key : PublicKey) (message : Bytes) : Nat :=
  ofBytes (padded (byteLength key.modulus) message)

/-- The private operation, done for each prime and put together. -/
def PrivateKey.apply (key : PrivateKey) (m : Nat) : Nat :=
  let a := powMod (m % key.p) key.exponentP key.p
  let b := powMod (m % key.q) key.exponentQ key.q
  b + (a + (key.p - b % key.p)) * key.inverse % key.p * key.q

/-- The signature of a message, as a number. -/
def PrivateKey.signNumber (key : PrivateKey) (message : Bytes) : Option Nat :=
  let m := representative key.publicKey message
  let s := key.apply m
  if powMod s key.publicKey.exponent key.publicKey.modulus = m then some s else none

/-- The signature of a message, as long as the modulus. -/
def PrivateKey.sign (key : PrivateKey) (message : Bytes) : Option Bytes :=
  (key.signNumber message).map (Sha256.bigEndian (byteLength key.publicKey.modulus))

/-- Whether a signature is one for the message. -/
def PublicKey.verify (key : PublicKey) (message signature : Bytes) : Bool :=
  signature.length == byteLength key.modulus &&
    ofBytes signature < key.modulus &&
    powMod (ofBytes signature) key.exponent key.modulus == representative key message

/-- The public exponent leads from a signature back to what was signed. -/
theorem pow_signNumber {key : PrivateKey} {message : Bytes} {s : Nat}
    (h : key.signNumber message = some s) :
    Nat.pow s key.publicKey.exponent % key.publicKey.modulus = representative key.publicKey message := by
  unfold PrivateKey.signNumber at h
  simp only [Option.ite_none_right_eq_some, Option.some.injEq] at h
  obtain ⟨h, rfl⟩ := h
  rw [← powMod_eq, h]

end IdentityClient.Rsa
