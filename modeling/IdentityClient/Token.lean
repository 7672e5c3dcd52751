import IdentityClient.Time
import IdentityClient.Text.Quoted

/-!
# Access tokens and their expiry

A token carries the moment after which it is no longer accepted. Lifetimes and margins may leave the
clock's range: a lifetime that does never ends, a margin that does covers every expiry.
-/

namespace IdentityClient

/-- The margin before expiry at which a stored token is replaced, unless another is chosen. -/
def defaultExpiryMargin : Duration := .ofSecs 10

structure AccessToken where
  secret : String
  expiresAt : Option Instant
  deriving DecidableEq, Repr, Inhabited

namespace AccessToken

/-- A token that never expires. -/
def bearer (secret : String) : AccessToken := ⟨secret, none⟩

/-- The token with its expiry set to `lifetime` after `now`. -/
def expiresIn (token : AccessToken) (now : Instant) (lifetime : Duration) : AccessToken :=
  { token with expiresAt := now.add? lifetime }

/-- Whether the token has expired by the time `margin` after `now`. -/
def expiresWithin (token : AccessToken) (now : Instant) (margin : Duration) : Bool :=
  match token.expiresAt with
  | none => false
  | some at_ =>
    match now.add? margin with
    | none => true
    | some deadline => at_.nanos ≤ deadline.nanos

/-- What is left of a token's lifetime. -/
inductive Remaining where
  | unlimited
  | left (d : Duration)
  | past
  deriving DecidableEq, Repr

def remaining (token : AccessToken) (now : Instant) : Remaining :=
  match token.expiresAt with
  | none => .unlimited
  | some at_ =>
    match now.until? at_ with
    | some d => .left d
    | none => .past

/-- A token without expiry, rendered: the secret is not shown. -/
def renderUnlimited (_ : AccessToken) : String :=
  renderRecord "AccessToken" [("secret", redacted), ("expires_at", "None")]

/-- A token, rendered with a text for its expiry. -/
def render (instant : Instant → String) (token : AccessToken) : String :=
  renderRecord "AccessToken" [("secret", redacted),
    ("expires_at", match token.expiresAt with
      | none => "None"
      | some at_ => renderWrapped "Some" (instant at_))]

end AccessToken

end IdentityClient
