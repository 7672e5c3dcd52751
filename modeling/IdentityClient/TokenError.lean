import IdentityClient.Crypto.KeyFault
import IdentityClient.Json.Fault
import IdentityClient.Net.HttpFault
import IdentityClient.Net.Url.Fault

/-!
# Why there is no token

The causes of a failed token request, each with its wording in `TokenError.message`. Sources supplied
by a caller describe their failures with texts of their own.
-/

namespace IdentityClient

/-- What went wrong while talking to the identity provider. -/
inductive HttpFault where
  /-- The discovery document could not be requested. -/
  | discoveryFailed (fault : SendFault)
  /-- The request for the discovery document was answered with an error. -/
  | discoveryRefused (fault : StatusFault)
  /-- The token endpoint could not be reached. -/
  | requestFailed (fault : SendFault)
  /-- The token endpoint answered with an error that is not an OAuth error. -/
  | refused (status : HttpStatus)
  | described (text : String)
  deriving DecidableEq, Repr

def HttpFault.message : HttpFault → String
  | .discoveryFailed fault => "OIDC discovery request failed: " ++ fault.message
  | .discoveryRefused fault => "OIDC discovery failed: " ++ fault.message
  | .requestFailed fault => "token request failed: " ++ fault.message
  | .refused status => "token endpoint returned HTTP " ++ status.render
  | .described text => text

/-- What is wrong with a reply of the identity provider. -/
inductive ResponseFault where
  /-- The discovery document is not one. -/
  | discoveryDocument
  /-- The discovery document names a token endpoint that is no URL. -/
  | endpointUrl (fault : UrlFault)
  /-- The token response is not one. -/
  | undecodable
  | emptyToken
  | described (text : String)
  deriving DecidableEq, Repr

/-- What is said of a body that is cut short or does not hold what it should. -/
def undecodableBody : String := "error decoding response body"

def ResponseFault.message : ResponseFault → String
  | .discoveryDocument => "OIDC discovery document: " ++ undecodableBody
  | .endpointUrl fault => "invalid token_endpoint URL in discovery document: " ++ fault.message
  | .undecodable => undecodableBody
  | .emptyToken => "empty access_token"
  | .described text => text

/-- Why a file cannot be read as text. -/
inductive FileFault where
  | notFound
  | permissionDenied
  | notDirectory
  | isDirectory
  | nameTooLong
  | interiorNul
  | notText
  deriving DecidableEq, Repr

def FileFault.message : FileFault → String
  | .notFound => "No such file or directory (os error 2)"
  | .permissionDenied => "Permission denied (os error 13)"
  | .notDirectory => "Not a directory (os error 20)"
  | .isDirectory => "Is a directory (os error 21)"
  | .nameTooLong => "File name too long (os error 36)"
  | .interiorNul => "file name contained an unexpected NUL byte"
  | .notText => "stream did not contain valid UTF-8"

/-- Why key material is refused. -/
inductive KeyFault where
  | emptyAccessToken
  | malformed (fault : Json.Fault)
  | emptyKeyId
  | noOwner
  | described (text : String)
  deriving DecidableEq, Repr

def KeyFault.message : KeyFault → String
  | .emptyAccessToken => "personal access token is empty"
  | .malformed fault => "malformed key document: " ++ fault.message
  | .emptyKeyId => "keyId is empty"
  | .noOwner => "key document has neither userId nor clientId"
  | .described text => text

inductive TokenError where
  /-- Transport or status error talking to the identity provider. -/
  | http (fault : HttpFault)
  /-- The identity provider's reply cannot be used. -/
  | invalidResponse (fault : ResponseFault)
  /-- The token endpoint rejected the request with an OAuth error. -/
  | rejected (code : String) (description : Option String)
  /-- The token is not a bearer token. -/
  | unsupportedTokenType (name : String)
  /-- A key file could not be read. -/
  | keyFile (path : String) (fault : FileFault)
  | invalidKey (fault : KeyFault)
  | signing (fault : SigningFault)
  /-- The source cannot give a token for now. -/
  | unavailable (reason : String)
  /-- The error of a source supplied by the caller. -/
  | other (text : String)
  deriving DecidableEq, Repr

namespace TokenError

def message : TokenError → String
  | .http fault => fault.message
  | .invalidResponse fault => "invalid token response: " ++ fault.message
  | .rejected code _ => "token request rejected: " ++ code
  | .unsupportedTokenType name => "unsupported token type: " ++ name
  | .keyFile path fault => "failed to read key file " ++ path ++ ": " ++ fault.message
  | .invalidKey fault => "invalid key: " ++ fault.message
  | .signing fault => "failed to sign assertion: " ++ fault.message
  | .unavailable reason => "token unavailable: " ++ reason
  | .other text => text

/-- What callers hear who waited for an exchange that failed with the text `reason`. -/
def refreshFailed (reason : String) : TokenError := .unavailable ("token refresh failed: " ++ reason)

end TokenError

end IdentityClient
