/-!
# Double-precision numbers, exactly

A finite double is `±m · 2^q`. All arithmetic here is on natural numbers: an operation forms the exact
quotient and rounds it once, to the nearest double, a tie going to the even one.
-/

namespace IdentityClient

/-- The finite double `±mantissa · 2^exponent`. -/
structure Binary64 where
  negative : Bool
  mantissa : Nat
  exponent : Int
  deriving DecidableEq, Repr, Inhabited

namespace Binary64

def leastExponent : Int := -1074
def greatestExponent : Int := 971

/-- `num / den`, rounded to the nearest whole number; a half goes to the even neighbour. -/
def roundHalfEven (num den : Nat) : Nat :=
  let low := num / den
  let rest := num % den
  if 2 * rest < den then low
  else if den < 2 * rest then low + 1
  else if low % 2 = 0 then low else low + 1

/-- `num / den · 2^(-q)` as a quotient of natural numbers. -/
def scaled (num den : Nat) (q : Int) : Nat × Nat :=
  if 0 ≤ q then (num, den * Nat.pow 2 q.toNat) else (num * Nat.pow 2 (-q).toNat, den)

/-- The exponent at which `num / den` has a mantissa of 53 bits, or the least exponent. -/
def exponentFor (num den : Nat) : Int :=
  let guess : Int := (Nat.log2 num : Int) - (Nat.log2 den : Int) - 52
  let s := scaled num den guess
  let q := if s.1 / s.2 < Nat.pow 2 52 then guess - 1 else guess
  max q leastExponent

/-- The double nearest to `num / den`, none if it is too large. -/
def ofQuotient (negative : Bool) (num den : Nat) : Option Binary64 :=
  if num = 0 ∨ den = 0 then some ⟨negative, 0, leastExponent⟩
  else
    let q := exponentFor num den
    let s := scaled num den q
    let m := roundHalfEven s.1 s.2
    let (m, q) := if m = Nat.pow 2 53 then (Nat.pow 2 52, q + 1) else (m, q)
    if greatestExponent < q then none else some ⟨negative, m, q⟩

/-- The size of the number as a quotient of natural numbers. -/
def toQuotient (x : Binary64) : Nat × Nat :=
  if 0 ≤ x.exponent then (x.mantissa * Nat.pow 2 x.exponent.toNat, 1)
  else (x.mantissa, Nat.pow 2 (-x.exponent).toNat)

def ofNat (n : Nat) : Option Binary64 := ofQuotient false n 1

def isZero (x : Binary64) : Bool := x.mantissa == 0

/-- The product, with the sign of the first factor. -/
def scaleUp (x y : Binary64) : Option Binary64 :=
  let a := x.toQuotient
  let b := y.toQuotient
  ofQuotient x.negative (a.1 * b.1) (a.2 * b.2)

/-- The quotient, with the sign of the dividend. -/
def scaleDown (x y : Binary64) : Option Binary64 :=
  let a := x.toQuotient
  let b := y.toQuotient
  ofQuotient x.negative (a.1 * b.2) (a.2 * b.1)

/-! ### The fewest digits that read back -/

/-- A positive decimal `digits · 10^exponent`. -/
structure Digits where
  digits : Nat
  exponent : Int
  deriving DecidableEq, Repr

/-- `10^k` as a quotient. -/
def powerOfTen (k : Int) : Nat × Nat :=
  if 0 ≤ k then (Nat.pow 10 k.toNat, 1) else (1, Nat.pow 10 (-k).toNat)

/-- The middle between `x` and its lower neighbour, as a quotient over `4 · 2^…`. -/
def lowerEnd (x : Binary64) : Nat × Nat :=
  let q : Binary64 := ⟨false, 1, x.exponent⟩
  let u := q.toQuotient
  if x.mantissa = Nat.pow 2 52 ∧ leastExponent < x.exponent then ((4 * x.mantissa - 1) * u.1, 4 * u.2)
  else ((2 * x.mantissa - 1) * u.1, 2 * u.2)

/-- The middle between `x` and its upper neighbour. -/
def upperEnd (x : Binary64) : Nat × Nat :=
  let q : Binary64 := ⟨false, 1, x.exponent⟩
  let u := q.toQuotient
  ((2 * x.mantissa + 1) * u.1, 2 * u.2)

/-- Whether the decimal rounds to `x`; the ends of the interval belong to an even mantissa. -/
def roundsTo (x : Binary64) (d : Digits) : Bool :=
  let p := powerOfTen d.exponent
  let value := (d.digits * p.1, p.2)
  let low := lowerEnd x
  let high := upperEnd x
  if x.mantissa % 2 = 0 then
    low.1 * value.2 ≤ value.1 * low.2 && value.1 * high.2 ≤ high.1 * value.2
  else low.1 * value.2 < value.1 * low.2 && value.1 * high.2 < high.1 * value.2

/-- The exponent `k` with `10^k ≤ num / den < 10^(k+1)`, searched upwards from `k`. -/
def decimalExponent (num den : Nat) : (fuel : Nat) → Int → Int
  | 0, k => k
  | fuel + 1, k =>
    let p := powerOfTen (k + 1)
    if num * p.2 < p.1 * den then k else decimalExponent num den fuel (k + 1)

/-- The neighbour of `x` on the grid of multiples of `10^p` that reads back as `x`, the nearer first. -/
def onGrid (x : Binary64) (p : Int) : Option Digits :=
  let v := x.toQuotient
  let s := powerOfTen p
  let num := v.1 * s.2
  let den := v.2 * s.1
  let low : Digits := ⟨num / den, p⟩
  let high : Digits := ⟨num / den + 1, p⟩
  let nearerLow := 2 * (num % den) ≤ den
  let (first, second) := if nearerLow then (low, high) else (high, low)
  if roundsTo x first then some first else if roundsTo x second then some second else none

/-- Tries grids of `count`, `count + 1`, … digits. -/
def shortestFrom (x : Binary64) (k : Int) : (fuel count : Nat) → Option Digits
  | 0, _ => none
  | fuel + 1, count =>
    match onGrid x (k + 1 - count) with
    | some d => some d
    | none => shortestFrom x k fuel (count + 1)

/-- Moves trailing zeros of the digits into the exponent; `fuel` bounds their number. -/
def Digits.trim (d : Digits) : (fuel : Nat) → Digits
  | 0 => d
  | fuel + 1 =>
    if d.digits % 10 = 0 ∧ d.digits ≠ 0 then Digits.trim ⟨d.digits / 10, d.exponent + 1⟩ fuel else d

/-- The decimal with the fewest digits that reads back as the size of `x`. -/
def shortest (x : Binary64) : Digits :=
  if x.mantissa = 0 then ⟨0, 0⟩
  else
    let v := x.toQuotient
    let k := decimalExponent v.1 v.2 640 (-324)
    ((shortestFrom x k 17 1).getD ⟨v.1 / v.2, 0⟩).trim 20

/-! ### Text -/

/-- A positional fraction from `1e-5` up to `1e16`, otherwise one digit, a point and an exponent. -/
def render (x : Binary64) : String :=
  let sign := if x.negative then "-" else ""
  let d := x.shortest
  let text := toString d.digits
  let count := text.length
  let point : Int := d.exponent + count
  let body :=
    if d.digits = 0 then "0.0"
    else if 0 ≤ d.exponent ∧ point ≤ 16 then
      text ++ String.ofList (List.replicate d.exponent.toNat '0') ++ ".0"
    else if 0 < point ∧ point ≤ 16 then
      String.ofList (text.toList.take point.toNat) ++ "." ++ String.ofList (text.toList.drop point.toNat)
    else if -5 < point ∧ point ≤ 0 then
      "0." ++ String.ofList (List.replicate (-point).toNat '0') ++ text
    else
      let scale := point - 1
      let exponent := (if scale < 0 then "-" else "+") ++ toString scale.natAbs
      let fraction := if count = 1 then "" else "." ++ String.ofList (text.toList.drop 1)
      String.ofList (text.toList.take 1) ++ fraction ++ "e" ++ exponent
  sign ++ body

end Binary64

end IdentityClient
