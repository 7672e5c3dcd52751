import IdentityClient.Provider.Exchange
import IdentityClient.Refreshing.State

/-!
# Token sources

What a client asks for the token of a call: a fixed token, one that is exchanged for and refreshed ahead
of its expiry, or whatever a caller supplies. Here one call is made after the other; calls side by side
are the subject of `Refreshing.State`, and an exchange leaves the same behind there
(`Refreshing.State.exists_recorded`).
-/

namespace IdentityClient

inductive TokenSource where
  | fixed (t : AccessToken)
  /-- A source that refreshes its token through an exchange. -/
  | refreshing (exchange : Exchange) (state : Refreshing.State)
  /-- A source of the caller's own, with its answer to each call; the calls so far are counted. -/
  | supplied (answer : Nat → TokenOutcome) (calls : Nat)

namespace TokenSource

open Refreshing

/-- What is logged when an exchange has ended. -/
def exchanged : TokenOutcome → LogRecord
  | .token _ => State.obtained
  | .failed e => State.failure e

/-- Asks the source for a token. -/
def token : TokenSource → Procedure (TokenOutcome × TokenSource)
  | .fixed t => .done (.token t, .fixed t)
  | .supplied answer calls => .done (answer calls, .supplied answer (calls + 1))
  | .refreshing exchange state =>
    .clock fun now =>
      let state := { state with now := now.clock }
      match state.fresh with
      | some t => .done (.token t, .refreshing exchange state)
      | none =>
        exchange.run.bind fun o =>
          .log (exchanged o) (.done (o, .refreshing exchange (state.record o)))

/-- A source whose first exchange is made before anyone asks. -/
def prime (exchange : Exchange) : Procedure (Except TokenError TokenSource) :=
  exchange.run.bind fun o =>
    .log (exchanged o) (match o with
      | .failed e => .done (.error e)
      | .token t =>
        .clock fun now =>
          .done (.ok (.refreshing exchange (State.primed now.clock defaultExpiryMargin t))))

end TokenSource

end IdentityClient
