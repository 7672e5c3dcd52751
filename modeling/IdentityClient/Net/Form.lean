import IdentityClient.Net.Url.Percent

/-!
# Posted forms

A form is a list of names with values, written `name=value&name=value`. Spaces become plus signs;
letters, digits and four marks stand as they are, all other characters are percent-encoded.
-/

namespace IdentityClient.Form

def contentType : String := "application/x-www-form-urlencoded"

/-- Whether a character stands as it is. -/
def isPlain (c : Char) : Bool := c.isAlphanum || "*-._".toList.contains c

def encodeChar (c : Char) : List Char :=
  if c = ' ' then ['+'] else Percent.encodeChar (fun c => !isPlain c) c

def encodeText (s : String) : List Char := s.toList.flatMap encodeChar

def encodePair (p : String × String) : List Char := encodeText p.1 ++ '=' :: encodeText p.2

def encode (pairs : List (String × String)) : List Char := ['&'].intercalate (pairs.map encodePair)

/-! ### Reading -/

/-- The text that a name or value stands for. -/
def decodeText (cs : List Char) : String :=
  Utf8.decodeLossy (Percent.decode (cs.map fun c => if c = '+' then ' ' else c))

/-- Cuts a form at its ampersands. -/
def cut : List Char → List (List Char)
  | [] => [[]]
  | c :: cs =>
    if c = '&' then [] :: cut cs
    else match cut cs with
      | part :: parts => (c :: part) :: parts
      | [] => [[c]]

/-- Name and value around the first equals sign. -/
def decodePair (cs : List Char) : String × String :=
  (decodeText (cs.takeWhile (· != '=')), decodeText ((cs.dropWhile (· != '=')).drop 1))

def decode (cs : List Char) : List (String × String) :=
  ((cut cs).filter fun part => !part.isEmpty).map decodePair

end IdentityClient.Form
