import IdentityClient.Net.Ipv4

/-!
# IPv6 addresses

Eight groups of 16 bits. Two colons stand for one or more groups of zeros, and an IPv4 address may
stand for the last two groups. Written out, the longest run of at least two zero groups is left out,
the first of them if there are several, and an address that embeds an IPv4 one shows it.
-/

namespace IdentityClient

structure Ipv6 where
  groups : List UInt16
  length_eq : groups.length = 8 := by decide
  deriving DecidableEq, Repr

namespace Ipv6

/-! ### Reading -/

/-- Cuts a text at its colons. -/
def cutColons : List Char → List (List Char)
  | [] => [[]]
  | c :: cs =>
    if c = ':' then [] :: cutColons cs
    else match cutColons cs with
      | part :: parts => (c :: part) :: parts
      | [] => [[c]]

/-- A group: one to four hexadecimal digits. -/
def group? (cs : List Char) : Option UInt16 :=
  if cs.isEmpty || 4 < cs.length || !cs.all Ipv4.isHexDigit then none
  else some (UInt16.ofNat (Ipv4.valueIn 16 cs))

/-- The groups of an embedded IPv4 address. -/
def ofIpv4 (a : Ipv4) : List UInt16 :=
  [UInt16.ofNat (a.bits.toNat / 65536), UInt16.ofNat (a.bits.toNat % 65536)]

/-- The groups of a list of parts, the last of which may be an IPv4 address. -/
def groups? : List (List Char) → Option (List UInt16)
  | [] => some []
  | [last] =>
    match group? last with
    | some g => some [g]
    | none => (Ipv4.parseStrict? last).map ofIpv4
  | part :: parts => do
    let g ← group? part
    let rest ← groups? parts
    pure (g :: rest)

/-- The groups of a text without two colons in a row; an empty text has none. -/
def groupsOf (cs : List Char) : Option (List UInt16) :=
  if cs.isEmpty then some [] else groups? (cutColons cs)

/-- What stands before and after the first two colons in a row. -/
def splitGap : List Char → Option (List Char × List Char)
  | ':' :: ':' :: rest => some ([], rest)
  | c :: rest => (splitGap rest).map fun s => (c :: s.1, s.2)
  | [] => none

/-- Only the last group of an address may be an IPv4 address. -/
def hasDot (cs : List Char) : Bool := cs.contains '.'

def ofGroups? (groups : List UInt16) : Option Ipv6 :=
  if h : groups.length = 8 then some ⟨groups, h⟩ else none

def parse? (cs : List Char) : Option Ipv6 :=
  match splitGap cs with
  | none => (groupsOf cs).bind ofGroups?
  | some (before, after) =>
    if hasDot before then none
    else do
      let head ← groupsOf before
      let tail ← groupsOf after
      if 8 ≤ head.length + tail.length then none
      else ofGroups? (head ++ List.replicate (8 - head.length - tail.length) 0 ++ tail)

/-! ### Writing -/

/-- How many zero groups stand at the front. -/
def zerosAt (groups : List UInt16) : Nat := (groups.takeWhile (· == 0)).length

/-- The start and length of the longest run of zero groups, the first of equals; `index` is the
position of the first group. -/
def longestZeros (index : Nat) : List UInt16 → Nat × Nat
  | [] => (index, 0)
  | g :: rest =>
    let here := zerosAt (g :: rest)
    let later := longestZeros (index + 1) rest
    if later.2 ≤ here then (index, here) else later

def groupText (g : UInt16) : String := String.ofList (Nat.toDigits 16 g.toNat)

def groupsText (groups : List UInt16) : String := ":".intercalate (groups.map groupText)

/-- The IPv4 address in an address of the form `::ffff:a.b.c.d`. -/
def mapped? (a : Ipv6) : Option Ipv4 :=
  match a.groups with
  | [0, 0, 0, 0, 0, 0xffff, high, low] => some ⟨UInt32.ofNat (high.toNat * 65536 + low.toNat)⟩
  | _ => none

/-- The groups, without the longest run of zeros. -/
def renderGroups (a : Ipv6) : String :=
  let gap := longestZeros 0 a.groups
  if gap.2 < 2 then groupsText a.groups
  else groupsText (a.groups.take gap.1) ++ "::" ++ groupsText (a.groups.drop (gap.1 + gap.2))

def render (a : Ipv6) : String :=
  match a.mapped? with
  | some v4 => "::ffff:" ++ v4.render
  | none => a.renderGroups

end Ipv6

end IdentityClient
