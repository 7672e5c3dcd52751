import IdentityClient.Text.Utf8

/-!
# Base64

Three bytes make four digits. The standard form fills the last group up with equals signs, the form for
URLs has two other digits and no filling. Reading is strict: the filling must be there or not, and bits
that stand for nothing must be zero (`decode_encode`).
-/

namespace IdentityClient.Base64

inductive Form where
  | standard
  | url
  deriving DecidableEq, Repr

/-- The last two digits. -/
def Form.last : Form → Char × Char
  | .standard => ('+', '/')
  | .url => ('-', '_')

def Form.padding : Form → Nat → List Char
  | .standard, n => List.replicate n '='
  | .url, _ => []

def digit (f : Form) (n : Nat) : Char :=
  if n < 26 then Char.ofNat ('A'.toNat + n)
  else if n < 52 then Char.ofNat ('a'.toNat + (n - 26))
  else if n < 62 then Char.ofNat ('0'.toNat + (n - 52))
  else if n = 62 then f.last.1
  else f.last.2

def value? (f : Form) (c : Char) : Option Nat :=
  if 'A' ≤ c && c ≤ 'Z' then some (c.toNat - 'A'.toNat)
  else if 'a' ≤ c && c ≤ 'z' then some (c.toNat - 'a'.toNat + 26)
  else if '0' ≤ c && c ≤ '9' then some (c.toNat - '0'.toNat + 52)
  else if c = f.last.1 then some 62
  else if c = f.last.2 then some 63
  else none

def encode (f : Form) : Bytes → List Char
  | [] => []
  | [x] =>
    let n := x.toNat * 16
    digit f (n / 64) :: digit f (n % 64) :: f.padding 2
  | [x, y] =>
    let n := (x.toNat * 256 + y.toNat) * 4
    digit f (n / 4096) :: digit f (n / 64 % 64) :: digit f (n % 64) :: f.padding 1
  | x :: y :: z :: rest =>
    let n := (x.toNat * 256 + y.toNat) * 256 + z.toNat
    digit f (n / 262144) :: digit f (n / 4096 % 64) :: digit f (n / 64 % 64) :: digit f (n % 64) ::
      encode f rest

/-- The byte of a last group of two digits. -/
def decodeTwo (f : Form) (c d : Char) : Option Bytes := do
  let a ← value? f c
  let b ← value? f d
  let n := a * 64 + b
  if n % 16 = 0 then some [UInt8.ofNat (n / 16)] else none

/-- The bytes of a last group of three digits. -/
def decodeThree (f : Form) (c d e : Char) : Option Bytes := do
  let a ← value? f c
  let b ← value? f d
  let g ← value? f e
  let n := (a * 64 + b) * 64 + g
  if n % 4 = 0 then some [UInt8.ofNat (n / 1024), UInt8.ofNat (n / 4)] else none

/-- The bytes of a full group. -/
def decodeFour (f : Form) (c d e g : Char) : Option Bytes := do
  let a ← value? f c
  let b ← value? f d
  let x ← value? f e
  let y ← value? f g
  let n := ((a * 64 + b) * 64 + x) * 64 + y
  some [UInt8.ofNat (n / 65536), UInt8.ofNat (n / 256), UInt8.ofNat n]

def decode (f : Form) : List Char → Option Bytes
  | [] => some []
  | [c, d] => if f = .url then decodeTwo f c d else none
  | [c, d, e] => if f = .url then decodeThree f c d e else none
  | c :: d :: e :: g :: rest =>
    if f = .standard ∧ rest = [] ∧ g = '=' then
      if e = '=' then decodeTwo f c d else decodeThree f c d e
    else do
      let first ← decodeFour f c d e g
      let more ← decode f rest
      some (first ++ more)
  | _ => none

theorem value?_digit (f : Form) {n : Nat} (h : n < 64) : value? f (digit f n) = some n := by
  have all : ∀ f : Form, ∀ n : Fin 64, value? f (digit f n.val) = some n.val := by
    intro f; cases f <;> decide
  exact all f ⟨n, h⟩

theorem digit_ne_padding (f : Form) {n : Nat} (h : n < 64) : digit f n ≠ '=' := by
  have all : ∀ f : Form, ∀ n : Fin 64, digit f n.val ≠ '=' := by intro f; cases f <;> decide
  exact all f ⟨n, h⟩

theorem decodeTwo_digits (f : Form) (x : UInt8) :
    decodeTwo f (digit f (x.toNat * 16 / 64)) (digit f (x.toNat * 16 % 64)) = some [x] := by
  have hx := x.toNat_lt
  rw [decodeTwo, value?_digit f (by omega), value?_digit f (by omega)]
  have e : x.toNat * 16 / 64 * 64 + x.toNat * 16 % 64 = x.toNat * 16 := by omega
  simp [e]

theorem decodeThree_digits (f : Form) (x y : UInt8) :
    decodeThree f (digit f ((x.toNat * 256 + y.toNat) * 4 / 4096))
      (digit f ((x.toNat * 256 + y.toNat) * 4 / 64 % 64))
      (digit f ((x.toNat * 256 + y.toNat) * 4 % 64)) = some [x, y] := by
  have hx := x.toNat_lt
  have hy := y.toNat_lt
  rw [decodeThree, value?_digit f (by omega), value?_digit f (by omega), value?_digit f (by omega)]
  generalize hn : (x.toNat * 256 + y.toNat) * 4 = n
  have e : (n / 4096 * 64 + n / 64 % 64) * 64 + n % 64 = n := by omega
  have z : n % 4 = 0 := by omega
  have h1 : UInt8.ofNat (n / 1024) = x := by
    apply UInt8.toNat.inj; rw [UInt8.toNat_ofNat']; omega
  have h2 : UInt8.ofNat (n / 4) = y := by
    apply UInt8.toNat.inj; rw [UInt8.toNat_ofNat']; omega
  simp [e, z, h1, h2]

theorem decodeFour_digits (f : Form) (x y z : UInt8) :
    decodeFour f (digit f (((x.toNat * 256 + y.toNat) * 256 + z.toNat) / 262144))
      (digit f (((x.toNat * 256 + y.toNat) * 256 + z.toNat) / 4096 % 64))
      (digit f (((x.toNat * 256 + y.toNat) * 256 + z.toNat) / 64 % 64))
      (digit f (((x.toNat * 256 + y.toNat) * 256 + z.toNat) % 64)) = some [x, y, z] := by
  have hx := x.toNat_lt
  have hy := y.toNat_lt
  have hz := z.toNat_lt
  rw [decodeFour, value?_digit f (by omega), value?_digit f (by omega), value?_digit f (by omega),
    value?_digit f (by omega)]
  generalize hn : (x.toNat * 256 + y.toNat) * 256 + z.toNat = n
  have e : ((n / 262144 * 64 + n / 4096 % 64) * 64 + n / 64 % 64) * 64 + n % 64 = n := by omega
  have h1 : UInt8.ofNat (n / 65536) = x := by
    apply UInt8.toNat.inj; rw [UInt8.toNat_ofNat']; omega
  have h2 : UInt8.ofNat (n / 256) = y := by
    apply UInt8.toNat.inj; rw [UInt8.toNat_ofNat']; omega
  have h3 : UInt8.ofNat n = z := by
    apply UInt8.toNat.inj; rw [UInt8.toNat_ofNat']; omega
  simp only [bind, Option.bind, e, h1, h2, h3]

/-- Reading what was written gives it back. -/
theorem decode_encode (f : Form) (bytes : Bytes) : decode f (encode f bytes) = some bytes := by
  induction bytes using encode.induct with
  | case1 => rfl
  | case2 x =>
    cases f <;> simp [encode, decode, Form.padding, decodeTwo_digits]
  | case3 x y =>
    have h : digit .standard ((x.toNat * 256 + y.toNat) * 4 % 64) ≠ '=' := digit_ne_padding _ (by omega)
    cases f
    · simp [encode, decode, Form.padding, decodeThree_digits, h]
    · simp [encode, decode, Form.padding, decodeThree_digits]
  | case4 x y z rest ih =>
    have h : digit f (((x.toNat * 256 + y.toNat) * 256 + z.toNat) % 64) ≠ '=' :=
      digit_ne_padding _ (by omega)
    simp [encode, decode, decodeFour_digits, ih, h]

end IdentityClient.Base64
