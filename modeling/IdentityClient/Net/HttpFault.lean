import IdentityClient.Net.HttpStatus
import IdentityClient.Text.Utf8

/-!
# Why an HTTP request comes to nothing
-/

namespace IdentityClient

/-- Why there is no reply to a request. -/
inductive SendFault where
  /-- The address is no URL. -/
  | notUrl
  /-- The URL does not name a web server. -/
  | unsupported (url : String)
  /-- No connection, none in time, or one that broke before the reply. -/
  | unanswered (url : String)
  deriving DecidableEq, Repr

def SendFault.message : SendFault → String
  | .notUrl => "builder error"
  | .unsupported url => "builder error for url (" ++ url ++ ")"
  | .unanswered url => "error sending request for url (" ++ url ++ ")"

/-- A reply with the status of an error. -/
structure StatusFault where
  status : HttpStatus
  /-- The phrase that came with the status, where it is not the registered one. -/
  reason : Option Bytes
  url : String
  deriving DecidableEq, Repr

namespace StatusFault

/-- A byte of a phrase: printing ASCII as it is, anything else escaped. -/
def escapeByte (b : UInt8) : List Char :=
  if b = 0x0a then ['\\', 'n']
  else if b = 0x0d then ['\\', 'r']
  else if b = 0x09 then ['\\', 't']
  else if b = 0x5c then ['\\', '\\']
  else if b = 0x00 then ['\\', '0']
  else if 0x20 ≤ b ∧ b < 0x7f then [Char.ofNat b.toNat]
  else '\\' :: 'x' :: (Hex.encode [b]).toList

def statusText (f : StatusFault) : String :=
  match f.reason with
  | some phrase => toString f.status.code ++ " " ++ String.ofList (phrase.flatMap escapeByte)
  | none => f.status.render

def message (f : StatusFault) : String :=
  let kind := if f.status.isClientError then "client" else "server"
  "HTTP status " ++ kind ++ " error (" ++ f.statusText ++ ") for url (" ++ f.url ++ ")"

end StatusFault

end IdentityClient
