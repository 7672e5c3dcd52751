import IdentityClient.Text.Utf8

/-!
# Distinguished encoding

A value is a tag, a length and a body, and the bodies of sequences and sets are values again. Reading
does not ask for the shortest spelling, but a body that holds values holds at least one.
-/

namespace IdentityClient.Der

inductive Value where
  | integer (body : Bytes)
  | bits (body : Bytes)
  | octets (body : Bytes)
  | identifier (numbers : List Nat)
  | sequence (items : List Value)
  | set (items : List Value)
  /-- A value whose body does not matter here. -/
  | other (tag : Nat)
  deriving Repr

/-- A number in groups of seven bits, the highest first; all but the last are marked. -/
def readGroups (acc : Nat) : Bytes → Option (Nat × Bytes)
  | [] => none
  | b :: rest =>
    let acc := acc * 128 + b.toNat % 128
    if b < 0x80 then some (acc, rest) else readGroups acc rest

theorem length_readGroups {acc n : Nat} {bytes rest : Bytes} (h : readGroups acc bytes = some (n, rest)) :
    rest.length < bytes.length := by
  induction bytes generalizing acc with
  | nil => simp [readGroups] at h
  | cons b bytes ih =>
    rw [readGroups] at h
    split at h
    · simp only [Option.some.injEq, Prod.mk.injEq] at h
      simp [← h.2]
    · have := ih h
      simp; omega

/-- All numbers of a body that is cut into groups. -/
def readNumbers (bytes : Bytes) : Option (List Nat) :=
  if bytes.isEmpty then some []
  else match h : readGroups 0 bytes with
    | none => none
    | some (n, rest) =>
      have := length_readGroups h
      (readNumbers rest).map (n :: ·)
termination_by bytes.length

/-- The numbers of an object identifier; the first byte holds two. -/
def readIdentifier : Bytes → Option (List Nat)
  | [] => none
  | b :: rest =>
    let n := b.toNat
    let first := if n < 40 then [0, n] else if n < 80 then [1, n - 40] else [2, n - 80]
    (readNumbers rest).map (first ++ ·)

/-- A tag: its class, its number, and what follows. -/
def readTag : Bytes → Option (Nat × Nat × Bytes)
  | [] => none
  | b :: rest =>
    let kind := b.toNat / 64
    let n := b.toNat % 32
    if n = 31 then (readGroups 0 rest).map fun (n, rest) => (kind, n, rest) else some (kind, n, rest)

/-- A length: one byte, or up to eight after a byte that counts them. -/
def readLength : Bytes → Option (Nat × Bytes)
  | [] => none
  | b :: rest =>
    if b < 0x80 then some (b.toNat, rest)
    else
      let count := b.toNat % 128
      if 8 < count ∨ rest.length < count then none
      else some ((rest.take count).foldl (fun n b => n * 256 + b.toNat) 0, rest.drop count)

def isPrintable (b : UInt8) : Bool :=
  let c := Char.ofNat b.toNat
  c.isAlphanum || " '()+,-./:=?".toList.contains c

def isDigit (b : UInt8) : Bool := 0x30 ≤ b && b ≤ 0x39

/-- The number of two digits. -/
def twoDigits? : Bytes → Option Nat
  | [a, b] => if isDigit a && isDigit b then some ((a.toNat - 48) * 10 + (b.toNat - 48)) else none
  | _ => none

def daysInMonth (year month : Nat) : Nat :=
  if month = 2 then (if year % 4 = 0 ∧ (year % 100 ≠ 0 ∨ year % 400 = 0) then 29 else 28)
  else if [4, 6, 9, 11].contains month then 30 else 31

/-- Whether a body is a moment: month, day, hour, minute and second in two digits each. -/
def isMoment (year : Nat) (body : Bytes) : Bool :=
  let part (i : Nat) : Nat := (twoDigits? ((body.drop (2 * i)).take 2)).getD 99
  body.length == 10 && body.all isDigit &&
    1 ≤ part 0 && part 0 ≤ 12 && 1 ≤ part 1 && part 1 ≤ daysInMonth year (part 0) &&
    part 2 < 24 && part 3 < 60 && part 4 < 60

/-- `Z` -/
def zulu : UInt8 := 0x5A

/-- `.` -/
def point : UInt8 := 0x2E

/-- Whether a body is a moment whose year has two digits: from 1950 to 2049. -/
def isShortMoment (body : Bytes) : Bool :=
  match twoDigits? (body.take 2) with
  | none => false
  | some y =>
    body.drop 12 == [zulu] &&
      isMoment (if 50 ≤ y then 1900 + y else 2000 + y) ((body.drop 2).take 10)

/-- The bytes with one more in front of the place `i`. -/
def insertAt (i : Nat) (b : UInt8) (body : Bytes) : Bytes := body.take i ++ b :: body.drop i

/-- A moment with a fraction of a second, in at least 25 bytes: a missing point belongs after the seconds, and
zeros in place of missing digits before the final mark. -/
def completeFraction (body : Bytes) : Bytes :=
  let body := if body.contains point then body else insertAt 14 point body
  body.take (body.length - 1) ++ List.replicate (25 - body.length) 0x30 ++ body.drop (body.length - 1)

/-- Whether a body is a year of four digits, which may have a sign, a moment, and a fraction of a second. -/
def isFullMoment (body : Bytes) : Bool :=
  let body := match body with
    | b :: rest => if b = 0x2B ∨ b = 0x2D then rest else b :: rest
    | [] => []
  match twoDigits? (body.take 2), twoDigits? ((body.drop 2).take 2) with
  | some c, some y =>
    let fraction := (body.drop 15).dropLast
    isMoment (c * 100 + y) ((body.drop 4).take 10) && (body.drop 14).head? == some point &&
      !fraction.isEmpty && fraction.all isDigit && body.getLast? == some zulu
  | _, _ => false

/-- Whether a body is a moment whose year has four digits; its fraction of a second may be missing. -/
def isLongMoment (body : Bytes) : Bool := 15 ≤ body.length && isFullMoment (completeFraction body)

/-- A value of the universal class that holds no others. -/
def readPlain (tag : Nat) (body : Bytes) : Option Value :=
  let text (ok : Bool) : Option Value := if ok then some (.other tag) else none
  match tag with
  | 1 => text (body.length == 1)
  | 2 => some (.integer body)
  | 3 =>
    match body with
    | [] => some (.bits [])
    | unused :: rest => if rest.length * 8 < unused.toNat then none else some (.bits rest)
  | 4 => some (.octets body)
  | 6 => (readIdentifier body).map .identifier
  | 12 | 20 | 28 | 30 => text (Utf8.decode body).isOk
  | 19 => text (body.all isPrintable)
  | 23 => text (isShortMoment body)
  | 24 => text (isLongMoment body)
  | _ => some (.other tag)

/-- Reads all values of a body, at least one; `fuel` bounds how many there are and how deep they go. -/
def readAll : (fuel : Nat) → Bytes → Option (List Value)
  | 0, _ => none
  | fuel + 1, bytes => do
    let (kind, tag, rest) ← readTag bytes
    let (n, rest) ← readLength rest
    let body := rest.take n
    if rest.length < n then none
    let value ←
      if kind ≠ 0 then some (.other tag)
      else if tag = 16 then (readAll fuel body).map .sequence
      else if tag = 17 then (readAll fuel body).map .set
      else readPlain tag body
    let rest := rest.drop n
    if rest.isEmpty then some [value] else (readAll fuel rest).map (value :: ·)

/-- The values that a text consists of. -/
def parse? (bytes : Bytes) : Option (List Value) := readAll (bytes.length + 1) bytes

end IdentityClient.Der
