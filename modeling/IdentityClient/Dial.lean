import IdentityClient.Headers
import IdentityClient.Text.Quoted
import IdentityClient.Time
import IdentityClient.Transport.Error

/-!
# Dial options

Options are applied in the order given. The socket's options are folded into `SocketSettings`, where
the last of a kind wins; all others change the `Endpoint`. An option belongs to one of the two
(`DialOption.apply_of_isSocket`, `SocketSettings.add_of_not_isSocket`).
-/

namespace IdentityClient

/-- What a connection is set up with, apart from its socket. -/
structure Endpoint where
  address : Uri
  /-- The origin that requests name in place of the address. -/
  origin : Option Uri := none
  timeout : Option Duration := none
  keepaliveInterval : Option Duration := none
  keepaliveTimeout : Option Duration := none
  keepaliveWhileIdle : Option Bool := none
  userAgent : Option HeaderValue := none
  concurrencyLimit : Option Nat := none
  /-- The callers' own changes that were applied. -/
  mutations : Nat := 0
  deriving DecidableEq, Repr

inductive DialOption where
  /-- Bound on each request. -/
  | timeout (d : Duration)
  /-- Bound on looking up, connecting and the TLS handshake. -/
  | connectTimeout (d : Duration)
  | tcpKeepalive (on : Bool)
  | tcpNodelay (on : Bool)
  /-- Time between keepalive pings. -/
  | keepaliveInterval (d : Duration)
  /-- How long a ping may stay unanswered. -/
  | keepaliveTimeout (d : Duration)
  /-- Whether to ping while there is no call. -/
  | keepaliveWhileIdle (on : Bool)
  /-- What comes first in the user-agent header. -/
  | userAgent (text : String)
  /-- How many requests may be in flight. -/
  | concurrencyLimit (n : Nat)
  /-- Connect with the first call only. -/
  | lazy
  /-- A change of the caller's own. -/
  | custom (change : Endpoint → Endpoint)

namespace DialOption

/-- Whether the option concerns the socket. -/
def isSocket : DialOption → Bool
  | .connectTimeout _ | .tcpKeepalive _ | .tcpNodelay _ | .lazy => true
  | _ => false

/-- Applies an option to the endpoint; the socket's options leave it alone. -/
def apply (o : DialOption) (e : Endpoint) : Except TransportError Endpoint :=
  match o with
  | .timeout d => .ok { e with timeout := some d }
  | .keepaliveInterval d => .ok { e with keepaliveInterval := some d }
  | .keepaliveTimeout d => .ok { e with keepaliveTimeout := some d }
  | .keepaliveWhileIdle on => .ok { e with keepaliveWhileIdle := some on }
  | .userAgent text =>
    match HeaderValue.ofString? text with
    | some v => .ok { e with userAgent := some v }
    | none => .error (.dialOption ("user agent " ++ quoted text))
  | .concurrencyLimit n => .ok { e with concurrencyLimit := some n }
  | .custom change => .ok (change e)
  | .connectTimeout _ | .tcpKeepalive _ | .tcpNodelay _ | .lazy => .ok e

theorem apply_of_isSocket {o : DialOption} (h : o.isSocket = true) (e : Endpoint) :
    o.apply e = .ok e := by
  cases o <;> simp_all [isSocket, apply]

/-- Applies options in order up to the first that fails. -/
def applyAll : List DialOption → Endpoint → Except TransportError Endpoint
  | [], e => .ok e
  | o :: os, e =>
    match o.apply e with
    | .error f => .error f
    | .ok e => applyAll os e

def render : DialOption → String
  | .timeout d => renderWrapped "Timeout" d.render
  | .connectTimeout d => renderWrapped "ConnectTimeout" d.render
  | .tcpKeepalive on => renderWrapped "TcpKeepalive" (boolText on)
  | .tcpNodelay on => renderWrapped "TcpNodelay" (boolText on)
  | .keepaliveInterval d => renderWrapped "Http2KeepaliveInterval" d.render
  | .keepaliveTimeout d => renderWrapped "KeepaliveTimeout" d.render
  | .keepaliveWhileIdle on => renderWrapped "KeepaliveWhileIdle" (boolText on)
  | .userAgent text => renderWrapped "UserAgent" (quoted text)
  | .concurrencyLimit n => renderWrapped "ConcurrencyLimit" (toString n)
  | .lazy => "Lazy"
  | .custom _ => "Custom(..)"

end DialOption

/-- How the socket is set up. -/
structure SocketSettings where
  connectTimeout : Option Duration := none
  nodelay : Bool := true
  keepalive : Bool := false
  lazy : Bool := false
  deriving DecidableEq, Repr

namespace SocketSettings

/-- Takes one option into account. -/
def add (s : SocketSettings) : DialOption → SocketSettings
  | .connectTimeout d => { s with connectTimeout := some d }
  | .tcpNodelay on => { s with nodelay := on }
  | .tcpKeepalive on => { s with keepalive := on }
  | .lazy => { s with lazy := true }
  | _ => s

theorem add_of_not_isSocket {o : DialOption} (h : o.isSocket = false) (s : SocketSettings) :
    s.add o = s := by
  cases o <;> simp_all [DialOption.isSocket, add]

def ofOptions (options : List DialOption) : SocketSettings := options.foldl add {}

def render (s : SocketSettings) : String :=
  let timeout := match s.connectTimeout with
    | some d => renderWrapped "Some" d.render
    | none => "None"
  renderRecord "SocketSettings" [("connect_timeout", timeout), ("nodelay", boolText s.nodelay),
    ("keepalive", boolText s.keepalive), ("lazy", boolText s.lazy)]

end SocketSettings

end IdentityClient
