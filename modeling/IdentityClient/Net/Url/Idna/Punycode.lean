/-!
# Characters beyond ASCII as letters and digits (RFC 3492)

The characters of a label that lie outside ASCII are coded, in the order of their values, as numbers
of variable length after the ASCII characters. The thresholds between the digits of a number adapt
to the numbers before it.
-/

namespace IdentityClient.Idna.Punycode

def digitChar (d : Nat) : Char :=
  if d < 26 then Char.ofNat ('a'.toNat + d) else Char.ofNat ('0'.toNat + d - 26)

def digitValue? (c : Char) : Option Nat :=
  if 'a' ≤ c && c ≤ 'z' then some (c.toNat - 'a'.toNat)
  else if 'A' ≤ c && c ≤ 'Z' then some (c.toNat - 'A'.toNat)
  else if '0' ≤ c && c ≤ '9' then some (c.toNat - '0'.toNat + 26)
  else none

/-- The threshold of the digit at `k`, between 1 and 26. -/
def threshold (k bias : Nat) : Nat :=
  if k ≤ bias then 1 else if bias + 26 ≤ k then 26 else k - bias

theorem one_le_threshold (k bias : Nat) : 1 ≤ threshold k bias := by
  unfold threshold
  split
  · omega
  · split <;> omega

/-- Divides `delta` until it is at most 455, counting in steps of 36. -/
def reduce (delta k : Nat) : Nat × Nat :=
  if 455 < delta then reduce (delta / 35) (k + 36) else (delta, k)
termination_by delta
decreasing_by omega

/-- The bias after a number `delta` when `count` characters are placed. -/
def adapt (delta count : Nat) (first : Bool) : Nat :=
  let start := if first then delta / 700 else delta / 2
  let r := reduce (start + start / count) 0
  r.2 + 36 * r.1 / (r.1 + 38)

/-- Numbers are limited to 32 bits. -/
def limit : Nat := Nat.pow 2 32

/-! ### Reading -/

/-- Reads one number, `acc` so far and its next digit weighing `weight`. -/
def readNumber (bias : Nat) : (k acc weight : Nat) → List Char → Option (Nat × List Char)
  | _, _, _, [] => none
  | k, acc, weight, c :: rest =>
    match digitValue? c with
    | none => none
    | some d =>
      let acc := acc + d * weight
      if limit ≤ acc then none
      else
        let t := threshold k bias
        if d < t then some (acc, rest)
        else if limit ≤ weight * (36 - t) then none
        else readNumber bias (k + 36) acc (weight * (36 - t)) rest

/-- A code point that is a character. -/
def isCharacter (n : Nat) : Bool := n < 0xD800 || (0xDFFF < n && n < 0x110000)

/-- Places characters while input is left: the number before the next one stood at `n` and `i`. -/
def readCharacters : (fuel n i bias : Nat) → (out input : List Char) → Option (List Char)
  | _, _, _, _, out, [] => some out
  | 0, _, _, _, _, _ => none
  | fuel + 1, n, i, bias, out, input =>
    match readNumber bias 36 i 1 input with
    | none => none
    | some (j, rest) =>
      let count := out.length + 1
      let n := n + j / count
      let place := j % count
      if isCharacter n then
        readCharacters fuel n (place + 1) (adapt (j - i) count (i == 0))
          (out.take place ++ Char.ofNat n :: out.drop place) rest
      else none

/-- Splits a text at its last hyphen: what stands before it, and what is coded. A hyphen at the very
start belongs to the coded part. -/
def splitBasic (cs : List Char) : List Char × List Char :=
  let coded := (cs.reverse.takeWhile (· != '-')).reverse
  let basic := cs.take (cs.length - coded.length - 1)
  if basic.isEmpty then ([], cs) else (basic, coded)

/-- The label that a text codes. -/
def decode (cs : List Char) : Option (List Char) :=
  let (basic, coded) := splitBasic cs
  readCharacters coded.length 0x80 0 72 basic coded

/-! ### Writing -/

/-- The digits of a number; `fuel` bounds their number. -/
def writeNumber (bias : Nat) : (fuel k q : Nat) → List Char
  | 0, _, _ => []
  | fuel + 1, k, q =>
    let t := threshold k bias
    if q < t then [digitChar q]
    else digitChar (t + (q - t) % (36 - t)) ::
      writeNumber bias fuel (k + 36) ((q - t) / (36 - t))

/-- Where writing stands: the digits so far (latest first), the pending number, the bias and the
characters placed. -/
structure Writing where
  out : List Char
  delta : Nat
  bias : Nat
  placed : Nat

/-- Passes one character while those equal to `m` are being placed. -/
def Writing.pass (basic m : Nat) (w : Writing) (c : Char) : Writing :=
  if c.toNat < m then { w with delta := w.delta + 1 }
  else if c.toNat = m then
    { out := (writeNumber w.bias (w.delta + 1) 36 w.delta).reverse ++ w.out
      delta := 0
      bias := adapt w.delta (w.placed + 1) (w.placed == basic)
      placed := w.placed + 1 }
  else w

/-- Places the characters of `input` by value, those below `n` being placed already. -/
def writeCharacters (basic : Nat) (input : List Char) : (fuel n : Nat) → Writing → Writing
  | 0, _, w => w
  | fuel + 1, n, w =>
    match (input.filterMap fun c => if n ≤ c.toNat then some c.toNat else none).min? with
    | none => w
    | some m =>
      let w := { w with delta := w.delta + (m - n) * (w.placed + 1) }
      let w := input.foldl (Writing.pass basic m) w
      writeCharacters basic input fuel (m + 1) { w with delta := w.delta + 1 }

/-- A label in ASCII characters. -/
def encode (cs : List Char) : List Char :=
  let basic := cs.filter fun c => c.toNat < 0x80
  let start : Writing := ⟨[], 0, 72, basic.length⟩
  let w := writeCharacters basic.length cs (cs.length + 1) 0x80 start
  basic ++ (if basic.isEmpty then [] else ['-']) ++ w.out.reverse

end IdentityClient.Idna.Punycode
