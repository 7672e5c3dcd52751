import IdentityClient.Text.Utf8

/-!
# Written JSON

Texts are quoted with the short escapes where there is one, and other control characters by number.
-/

namespace IdentityClient.Json

/-- `\u001f` -/
def controlEscape (c : Char) : List Char :=
  ['\\', 'u', '0', '0', Nat.digitChar (c.toNat / 16), Nat.digitChar (c.toNat % 16)]

/-- How one character stands between the quotes. -/
def escapeChar (c : Char) : List Char :=
  if c = '"' then ['\\', '"']
  else if c = '\\' then ['\\', '\\']
  else if c = '\n' then ['\\', 'n']
  else if c = '\r' then ['\\', 'r']
  else if c = '\t' then ['\\', 't']
  else if c = '\x08' then ['\\', 'b']
  else if c = '\x0c' then ['\\', 'f']
  else if c.toNat < 0x20 then controlEscape c
  else [c]

def quote (s : String) : List Char := '"' :: s.toList.flatMap escapeChar ++ ['"']

/-- An object of members whose values are written. -/
def object (members : List (String × List Char)) : List Char :=
  let member (m : String × List Char) : List Char := quote m.1 ++ ':' :: m.2
  '\x7b' :: [','].intercalate (members.map member) ++ ['\x7d']

end IdentityClient.Json
