import IdentityClient.Simulation.Timeline

/-!
# Token sources in virtual time
-/

namespace IdentityClient.Simulation

/-- A source of tokens whose answers are known beforehand. -/
inductive Source where
  /-- The same token for good. -/
  | fixed (t : AccessToken)
  /-- One reply for each request. -/
  | scripted (s : Script)
  /-- A refreshing source whose exchanges follow a script. -/
  | refreshing (l : Timeline)

/-- What a request for a token has come to, when, and what has become of the source. -/
structure Asked where
  /-- None if the time was up first. -/
  outcome : Option TokenOutcome
  /-- When the wait was over; none if there was neither an answer nor a limit. -/
  at_ : Option Instant
  source : Source
  log : List LogRecord

namespace Source

/-- Asks a script for a token; its reply counts if it is there when the limit is up. -/
def askScript (s : Script) (now : Instant) (limit : Option Duration) : Asked :=
  let (answer, rest) := s.take
  let wait : Wait := match answer.delay? with
    | some ⟨0⟩ => .finished now
    | d => now.wait d limit
  match wait with
  | .finished t => ⟨answer.outcomeAt? t, some t, .scripted rest, []⟩
  | .timedOut t => ⟨none, some t, .scripted rest, []⟩
  | .endless => ⟨none, none, .scripted rest, []⟩

/-- Asks a refreshing source for a token. -/
def askRefreshing (l : Timeline) (now : Instant) (limit : Option Duration) : Asked :=
  let l := { l with state := { l.state with now } }
  let (after, endings) := l.run [{ limit }]
  let news := after.state.log.drop l.state.log.length
  match endings with
  | [some e] => ⟨e.outcome, some e.at_, .refreshing after, news⟩
  | _ => ⟨none, none, .refreshing after, news⟩

/-- Asks the source for a token at `now`, for no longer than `limit`. -/
def ask (s : Source) (now : Instant) (limit : Option Duration) : Asked :=
  match s with
  | .fixed t => ⟨some (.token t), some now, s, []⟩
  | .scripted script => askScript script now limit
  | .refreshing l => askRefreshing l now limit

end Source

end IdentityClient.Simulation
