import IdentityClient.Net.Url.Idna.NormalTable

/-!
# Composed normal form

Characters are decomposed, marks between two others are sorted by class, and what can be composed is
composed again. Text in ASCII is its own normal form (`normalize_of_ascii`).
-/

namespace IdentityClient.Idna

/-! ### Hangul syllables -/

def hangulBase : Nat := 0xAC00
def leadBase : Nat := 0x1100
def vowelBase : Nat := 0x1161
def tailBase : Nat := 0x11A7
def vowelCount : Nat := 21
def tailCount : Nat := 28
def leadCount : Nat := 19
def hangulCount : Nat := leadCount * vowelCount * tailCount

/-- The letters of a syllable. -/
def hangulParts (n : Nat) : List Nat :=
  let i := n - hangulBase
  let lead := leadBase + i / (vowelCount * tailCount)
  let vowel := vowelBase + i % (vowelCount * tailCount) / tailCount
  let tail := i % tailCount
  if tail = 0 then [lead, vowel] else [lead, vowel, tailBase + tail]

/-- The syllable that two parts form. -/
def hangulJoin? (a b : Nat) : Option Nat :=
  if leadBase ≤ a ∧ a < leadBase + leadCount ∧ vowelBase ≤ b ∧ b < vowelBase + vowelCount then
    some (hangulBase + ((a - leadBase) * vowelCount + (b - vowelBase)) * tailCount)
  else if hangulBase ≤ a ∧ a < hangulBase + hangulCount ∧ (a - hangulBase) % tailCount = 0 ∧
      tailBase < b ∧ b < tailBase + tailCount then some (a + (b - tailBase))
  else none

/-! ### Single characters -/

/-- The sequence that a character decomposes into. -/
def decompose (c : Char) : List Char :=
  let n := c.toNat
  if n < 0xC0 then [c]
  else if hangulBase ≤ n ∧ n < hangulBase + hangulCount then (hangulParts n).map Char.ofNat
  else match decompositionTable.find? n with
    | some row => row.data.map Char.ofNat
    | none => [c]

/-- Zero for a character that starts a new sequence. -/
def combiningClass (c : Char) : Nat :=
  if c.toNat < 0x300 then 0
  else match combiningTable.find? c.toNat with
    | some row => row.data.headD 0
    | none => 0

/-- Looks `b` up in the pairs `second, result, …`. -/
def pairResult? (b : Nat) : List Nat → Option Nat
  | second :: result :: rest => if second = b then some result else pairResult? b rest
  | _ => none

/-- The character that `a` and `b` compose into. -/
def compose? (a b : Char) : Option Char :=
  match hangulJoin? a.toNat b.toNat with
  | some n => some (Char.ofNat n)
  | none =>
    match compositionTable.find? a.toNat with
    | some row => (pairResult? b.toNat row.data).map Char.ofNat
    | none => none

/-! ### Sequences -/

/-- Puts a mark behind all marks of its class or a lower one, and before the higher ones, at the end
of a sequence whose last character comes first. -/
def insertMark (k : Nat) (c : Char) : List Char → List Char
  | [] => [c]
  | d :: rest => if k < combiningClass d then d :: insertMark k c rest else c :: d :: rest

/-- Sorts the marks of a sequence; the result has its last character first. -/
def orderMarks (cs : List Char) : List Char :=
  cs.foldl (fun out c =>
    let k := combiningClass c
    if k = 0 then c :: out else insertMark k c out) []

/-- Composes into `start`, with the marks after it that stay (latest first) and their last class. -/
def composeFrom (start : Char) (marks : List Char) (last : Nat) : List Char → List Char
  | [] => start :: marks.reverse
  | c :: cs =>
    let k := combiningClass c
    let joined := if marks.isEmpty ∨ last < k then compose? start c else none
    match joined with
    | some start => composeFrom start marks last cs
    | none =>
      if k = 0 then start :: marks.reverse ++ composeFrom c [] 0 cs
      else composeFrom start (c :: marks) k cs

/-- Composes a sequence; marks before its first starter stay as they are. -/
def composeAll : List Char → List Char
  | [] => []
  | c :: cs => if combiningClass c = 0 then composeFrom c [] 0 cs else c :: composeAll cs

/-- The composed normal form. -/
def normalize (cs : List Char) : List Char :=
  if cs.all fun c => c.toNat < 0xC0 then cs
  else composeAll (orderMarks (cs.flatMap decompose)).reverse

theorem normalize_of_ascii {cs : List Char} (h : ∀ c ∈ cs, c.toNat < 0x80) : normalize cs = cs := by
  have : (cs.all fun c => c.toNat < 0xC0) = true := by
    simp only [List.all_eq_true, decide_eq_true_eq]
    intro c hc
    have := h c hc
    omega
  simp [normalize, this]

end IdentityClient.Idna
