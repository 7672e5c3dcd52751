import IdentityClient.Dial
import IdentityClient.Transport.Tls

/-!
# What a connection is opened to
-/

namespace IdentityClient

/-- How TLS is spoken on a connection, and what name the server must prove. -/
structure TlsSession where
  config : TlsConfig
  serverName : ServerName
  deriving DecidableEq, Repr

structure ConnectTarget where
  /-- `domain:port`. -/
  host : String
  /-- None where the connection is in the clear. -/
  tls : Option TlsSession
  settings : SocketSettings
  deriving DecidableEq, Repr

/-- Why a connection attempt failed. -/
inductive ConnectFault where
  | lookup (reason : String)
  | noAddress (host : String)
  /-- No address could be reached; the reason is that of the last. -/
  | refused (reason : String)
  | timedOut (host : String)
  | handshake (reason : String)
  deriving DecidableEq, Repr

def ConnectFault.message : ConnectFault → String
  | .lookup reason => reason
  | .noAddress host => host ++ " did not resolve to any address"
  | .refused reason => reason
  | .timedOut host => "connecting to " ++ host ++ " timed out"
  | .handshake reason => reason

inductive ConnectResult where
  | opened
  | failed (fault : ConnectFault)
  /-- The attempt never ends. -/
  | endless
  deriving DecidableEq, Repr

/-- What becomes of a connection attempt. -/
structure ConnectEnd where
  log : List LogRecord
  result : ConnectResult
  deriving DecidableEq, Repr

end IdentityClient
