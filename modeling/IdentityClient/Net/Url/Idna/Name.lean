import IdentityClient.Net.Url.Idna.MappingTable
import IdentityClient.Net.Url.Idna.Normal
import IdentityClient.Net.Url.Idna.PropertyTable
import IdentityClient.Net.Url.Idna.Punycode

/-!
# International domain names in ASCII

A name is mapped to its normal form, cut into labels, and every label is checked: coded labels must
code what they would have been mapped to, marks and joiners must stand where they may, and a name with
characters written from right to left must keep to one direction in every label. Labels outside
ASCII are then coded.
-/

namespace IdentityClient.Idna

/-- What becomes of a character: replaced by a sequence, or refused. -/
def mapChar (c : Char) : Option (List Char) :=
  let n := c.toNat
  if n < 0x80 then some [c.toLower]
  else match mappingTable.find? n with
    | some row => some (row.data.map Char.ofNat)
    | none =>
      if ignoredTable.contains c then some []
      else if refusedTable.contains c then none
      else some [c]

/-- Maps every character; none if one is refused. -/
def mapAll : List Char → Option (List Char)
  | [] => some []
  | c :: cs => do
    let first ← mapChar c
    let rest ← mapAll cs
    pure (first ++ rest)

/-- ASCII characters that no host may hold. -/
def isForbidden (c : Char) : Bool :=
  c.toNat ≤ 0x20 || c.toNat == 0x7f || "%#/:<>?@[\\]^|".toList.contains c

def isAsciiLabel (label : List Char) : Bool := label.all fun c => c.toNat < 0x80

def codedMark : List Char := ['x', 'n', '-', '-']

/-- The longest coded part that is read, and the longest label that is coded. -/
def maxCoded : Nat := 2000
def maxLabel : Nat := 1000

/-- The label that a coded one in ASCII stands for: nothing in it may be changed by mapping or normal form. -/
def decodeLabel (label : List Char) : Option (List Char) :=
  let coded := label.drop 4
  if !isAsciiLabel label ∨ label.getLast? = some '-' ∨ maxCoded < coded.length then none
  else do
    let decoded ← Punycode.decode coded
    let mapped ← mapAll decoded
    if normalize mapped = decoded ∧ decoded.all (fun c => !isForbidden c && c != '.') then
      pure decoded
    else none

/-! ### Where characters may stand -/

def isMark (c : Char) : Bool := if c.toNat < 0x300 then false else markTable.contains c

/-- How a letter joins its neighbours. -/
inductive Joining where
  | dual
  | left
  | right
  | transparent
  | other
  deriving DecidableEq, Repr

def joining (c : Char) : Joining :=
  match joiningTable.find? c.toNat with
  | some row =>
    match row.data with
    | [0] => .dual
    | [1] => .left
    | [2] => .right
    | [3] => .transparent
    | _ => .other
  | none => .other

def nonJoiner : Char := '\u200c'
def joiner : Char := '\u200d'
def viramaClass : Nat := 9

/-- The joining of the first character that is not transparent. -/
def firstJoining (cs : List Char) : Joining :=
  match cs.dropWhile (fun c => joining c == .transparent) with
  | c :: _ => joining c
  | [] => .other

/-- Whether the joiners in `cs` may stand there, after `before` (latest first). -/
def joinersFit (before : List Char) : List Char → Bool
  | [] => true
  | c :: cs =>
    let afterVirama := match before with
      | d :: _ => combiningClass d == viramaClass
      | [] => false
    let fits :=
      if c = nonJoiner then
        let earlier := firstJoining before
        let later := firstJoining cs
        afterVirama ||
          ((earlier == .dual || earlier == .left) && (later == .dual || later == .right))
      else if c = joiner then afterVirama
      else true
    fits && joinersFit (c :: before) cs

/-- A label outside ASCII starts with no mark, and its joiners stand where they may. -/
def isProperLabel (label : List Char) : Bool :=
  isAsciiLabel label ||
    (match label with
      | c :: _ => !isMark c
      | [] => true) && joinersFit [] label && label.length ≤ maxLabel

/-! ### Directions -/

inductive Direction where
  | left
  | right
  | arabicLetter
  | arabicNumber
  | europeanNumber
  | neutral
  | mark
  | other
  deriving DecidableEq, Repr

/-- Separators, terminators and the other neutrals are alike here. -/
def direction (c : Char) : Direction :=
  if c.toNat < 0x80 then
    if c.isDigit then .europeanNumber else if c.isAlpha then .left else .neutral
  else match directionTable.find? c.toNat with
    | some row =>
      match row.data with
      | [1] => .right
      | [2] => .arabicLetter
      | [3] => .arabicNumber
      | [4] => .europeanNumber
      | [10] => .mark
      | [11] => .other
      | _ => .neutral
    | none => .left

/-- Written from right to left. -/
def isRightward (d : Direction) : Bool := d == .right || d == .arabicLetter || d == .arabicNumber

/-- Whether a label keeps to one direction. -/
def keepsDirection (label : List Char) : Bool :=
  let ds := label.map direction
  let last := (ds.reverse.dropWhile (· == .mark)).headD .mark
  match ds with
  | [] => true
  | .left :: _ =>
    ds.all (fun d => d == .left || d == .europeanNumber || d == .neutral || d == .mark) &&
      (last == .left || last == .europeanNumber)
  | first :: _ =>
    (first == .right || first == .arabicLetter) &&
      ds.all (fun d => d != .left && d != .other) &&
      (isRightward last || last == .europeanNumber) &&
      !(ds.contains .europeanNumber && ds.contains .arabicNumber)

/-! ### Names -/

/-- The labels of a name, which dots separate. -/
def labelsOf : List Char → List (List Char)
  | [] => [[]]
  | c :: cs =>
    if c = '.' then [] :: labelsOf cs
    else match labelsOf cs with
      | label :: labels => (c :: label) :: labels
      | [] => [[c]]

/-- Labels with dots between them. -/
def joinLabels : List (List Char) → List Char
  | [] => []
  | [label] => label
  | label :: labels => label ++ '.' :: joinLabels labels

/-- A label as it is checked: what a coded one stands for. -/
def openLabel (label : List Char) : Option (List Char) :=
  if codedMark.isPrefixOf label then decodeLabel label else some label

/-- A label in ASCII. -/
def closeLabel (label : List Char) : List Char :=
  if isAsciiLabel label then label else codedMark ++ Punycode.encode label

/-- The ASCII form of a name; none if it is no name. -/
def toAscii (name : List Char) : Option (List Char) := do
  let mapped ← mapAll name
  let normal := normalize mapped
  if normal.any isForbidden then none
  let labels := labelsOf normal
  let opened ← labels.mapM openLabel
  if !opened.all isProperLabel then none
  let rightward := opened.any fun label => label.any fun c => isRightward (direction c)
  if rightward && !opened.all keepsDirection then none
  pure (joinLabels (labels.map closeLabel))

end IdentityClient.Idna
