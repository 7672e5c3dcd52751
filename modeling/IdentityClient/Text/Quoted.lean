import IdentityClient.Text.Visible

/-!
# Quoted text

A rendered value shows a text between double quotes, with the quote, the backslash and everything
that is not visible escaped. `Field.render` and its companions lay out the values of a record.
-/

namespace IdentityClient

namespace Quoted

/-- `\u{7f}`: the code point in hexadecimal, without leading zeros. -/
def unicodeEscape (c : Char) : List Char :=
  ['\\', 'u', '\x7b'] ++ Nat.toDigits 16 c.toNat ++ ['\x7d']

/-- How one character stands between the quotes. -/
def escapeChar (c : Char) : List Char :=
  if c = '\x00' then ['\\', '0']
  else if c = '\t' then ['\\', 't']
  else if c = '\r' then ['\\', 'r']
  else if c = '\n' then ['\\', 'n']
  else if c = '"' then ['\\', '"']
  else if c = '\\' then ['\\', '\\']
  else if extendsGrapheme c || !isVisible c then unicodeEscape c
  else [c]

end Quoted

/-- The text between double quotes, escaped. -/
def quoted (s : String) : String :=
  String.ofList (['"'] ++ s.toList.flatMap Quoted.escapeChar ++ ['"'])

/-- `true` or `false`. -/
def boolText (b : Bool) : String := if b then "true" else "false"

/-! ### Layout of rendered values -/

/-- What stands in place of a secret. -/
def redacted : String := "\"[REDACTED]\""

/-- `Name \x7b field: value, … \x7d`. -/
def renderRecord (name : String) (fields : List (String × String)) : String :=
  name ++ " \x7b " ++ ", ".intercalate (fields.map fun f => f.1 ++ ": " ++ f.2) ++ " \x7d"

/-- A record that has more fields than it shows. -/
def renderPartialRecord (name : String) (fields : List (String × String)) : String :=
  name ++ " \x7b " ++ ", ".intercalate (fields.map fun f => f.1 ++ ": " ++ f.2) ++ ", .. \x7d"

/-- `Name(value)`. -/
def renderWrapped (name value : String) : String := name ++ "(" ++ value ++ ")"

/-- `[a, b]`. -/
def renderList (values : List String) : String := "[" ++ ", ".intercalate values ++ "]"

end IdentityClient
