import IdentityClient.Encoding.Base64
import IdentityClient.Text.Blank

/-!
# Armoured text

A block of Base64 stands between a line that begins it and a line that ends it, both with the same
label. Text before and behind it does not matter, nor does white space in the data. Headers may come
first, before a blank line.
-/

namespace IdentityClient.Pem

structure Block where
  label : String
  content : Bytes
  deriving DecidableEq, Repr

/-- What follows the first occurrence of `mark`, of which `left` is still to come. The search never goes
back: a character that breaks off an occurrence is not the start of another one. -/
def scan (mark : List Char) : (left : List Char) → List Char → Option (List Char)
  | [], cs => some cs
  | _ :: _, [] => none
  | m :: left, c :: cs => if c = m then scan mark left cs else scan mark mark cs

/-- What stands before the first occurrence of `mark`, and what behind it. -/
def splitAt? (mark cs : List Char) : Option (List Char × List Char) :=
  (scan mark mark cs).map fun after => (cs.take (cs.length - after.length - mark.length), after)

def isSkipped (c : Char) : Bool := c == ' ' || c == '\t' || c == '\n' || c == '\r'

/-- The lines of a text, without their ends. -/
def lines (cs : List Char) : List (List Char) :=
  let unended (line : List Char) : List Char :=
    if line.getLast? == some '\r' then line.dropLast else line
  let rec split : List Char → List Char → List (List Char)
    | line, [] => if line.isEmpty then [] else [line.reverse]
    | line, '\n' :: rest => unended line.reverse :: split [] rest
    | line, c :: rest => split (c :: line) rest
  split [] cs

/-- The headers of a block and its data. -/
def splitHeaders (body : List Char) : List Char × List Char :=
  match splitAt? "\n\n".toList body with
  | some parts => parts
  | none => (splitAt? "\r\n\r\n".toList body).getD ([], body)

/-- The first block of a text. -/
def parse? (cs : List Char) : Option Block := do
  let (_, rest) ← splitAt? "-----BEGIN ".toList cs
  let (label, rest) ← splitAt? "-----".toList rest
  let (body, rest) ← splitAt? "-----END ".toList (rest.dropWhile isSkipped)
  let (endLabel, _) ← splitAt? "-----".toList rest
  let (headers, data) := splitHeaders body
  let content ← Base64.decode .standard (data.filter (!isBlank ·))
  if label.isEmpty ∨ label ≠ endLabel ∨ ¬ (lines headers).all (·.contains ':') then none
  else some ⟨String.ofList label, content⟩

end IdentityClient.Pem
