/-!
# Why a private key cannot sign
-/

namespace IdentityClient

/-- What is wrong with an RSA key. -/
inductive RsaKeyFault where
  | invalidEncoding
  | versionNotSupported
  | tooSmall
  | tooLarge
  | invalidComponent
  | inconsistentComponents
  /-- The primes are not a multiple of 512 bits long. -/
  | oddPrimeLength
  | unexpected
  deriving DecidableEq, Repr

def RsaKeyFault.message : RsaKeyFault → String
  | .invalidEncoding => "InvalidEncoding"
  | .versionNotSupported => "VersionNotSupported"
  | .tooSmall => "TooSmall"
  | .tooLarge => "TooLarge"
  | .invalidComponent => "InvalidComponent"
  | .inconsistentComponents => "InconsistentComponents"
  | .oddPrimeLength => "PrivateModulusLenNotMultipleOf512Bits"
  | .unexpected => "UnexpectedError"

/-- Why an assertion cannot be signed. -/
inductive SigningFault where
  /-- The text holds no RSA key in a known armour. -/
  | keyFormat
  /-- The armour names an RSA key, but holds none. -/
  | noKeyBits
  /-- The armour holds a key that cannot be used. -/
  | rsaKey (fault : RsaKeyFault)
  /-- The key's parts do not fit together. -/
  | signature
  deriving DecidableEq, Repr

def SigningFault.message : SigningFault → String
  | .keyFormat => "InvalidKeyFormat"
  | .noKeyBits => "InvalidEcdsaKey"
  | .rsaKey fault => "RSA key invalid: " ++ fault.message
  | .signature => "RsaFailedSigning"

end IdentityClient
