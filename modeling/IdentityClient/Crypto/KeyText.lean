import IdentityClient.Crypto.Rsa
import IdentityClient.Encoding.Der
import IdentityClient.Encoding.Pem

/-!
# Keys as armoured text

An RSA key stands in its armour alone, or wrapped together with the name of its algorithm. The wrapping
is not looked at closely: the first algorithm that is known counts, and the first run of bits.
-/

namespace IdentityClient

/-- The algorithms whose names are known. -/
inductive KeyAlgorithm where
  | rsa
  | ellipticCurve
  | edwards
  deriving DecidableEq, Repr

def KeyAlgorithm.ofIdentifier? : List Nat → Option KeyAlgorithm
  | [1, 2, 840, 113549, 1, 1, 1] => some .rsa
  | [1, 2, 840, 10045, 2, 1] => some .ellipticCurve
  | [1, 3, 101, 112] => some .edwards
  | _ => none

namespace Der

mutual

/-- The first algorithm that is named in a value or its parts. -/
def Value.algorithm? : Value → Option KeyAlgorithm
  | .identifier numbers => KeyAlgorithm.ofIdentifier? numbers
  | .sequence items => algorithmOf? items
  | _ => none

def algorithmOf? : List Value → Option KeyAlgorithm
  | [] => none
  | v :: rest =>
    match v.algorithm? with
    | some a => some a
    | none => algorithmOf? rest

end

mutual

/-- The first run of bits in a value or its parts. -/
def Value.bits? : Value → Option Bytes
  | .bits body => some body
  | .octets body => some body
  | .sequence items => bitsOf? items
  | _ => none

def bitsOf? : List Value → Option Bytes
  | [] => none
  | v :: rest =>
    match v.bits? with
    | some b => some b
    | none => bitsOf? rest

end

end Der

/-- The encoding of the RSA key that a text holds. -/
def rsaKeyBytes (text : String) : Except SigningFault Bytes :=
  match Pem.parse? text.toList with
  | none => .error .keyFormat
  | some block =>
    match Der.parse? block.content with
    | none => .error .keyFormat
    | some values =>
      if block.label = "RSA PRIVATE KEY" ∨ block.label = "RSA PUBLIC KEY" then .ok block.content
      else if block.label = "PRIVATE KEY" ∨ block.label = "PUBLIC KEY" ∨ block.label = "CERTIFICATE" then
        if Der.algorithmOf? values = some .rsa then
          match Der.bitsOf? values with
          | some bytes => .ok bytes
          | none => .error .noKeyBits
        else .error .keyFormat
      else .error .keyFormat

end IdentityClient
