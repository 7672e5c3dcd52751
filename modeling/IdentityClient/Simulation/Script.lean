import IdentityClient.Refreshing.State

/-!
# Rehearsed exchanges

For a source to run without an identity provider its exchanges follow a script: each takes the next
answer when it starts, and the last answer is repeated for good.
-/

namespace IdentityClient.Simulation

/-- What a rehearsed exchange comes to, and after how long. -/
inductive Answer where
  | token (secret : String) (lifetime : Option Duration) (delay : Duration)
  | failure (e : TokenError) (delay : Duration)
  | never
  deriving DecidableEq, Repr

/-- How long an exchange takes, if it ever ends. -/
def Answer.delay? : Answer → Option Duration
  | .token _ _ d => some d
  | .failure _ d => some d
  | .never => none

/-- What an exchange that ends at `now` has come to; a lifetime counts from there. -/
def Answer.outcomeAt? (now : Instant) : Answer → Option Refreshing.Outcome
  | .token secret lifetime _ =>
    let bearer := AccessToken.bearer secret
    match lifetime with
    | some d => some (.token (bearer.expiresIn now d))
    | none => some (.token bearer)
  | .failure e _ => some (.failed e)
  | .never => none

structure Script where
  answers : List Answer
  /-- How many answers have been taken. -/
  taken : Nat
  deriving DecidableEq, Repr

namespace Script

def ofList (answers : List Answer) : Script := ⟨answers, 0⟩

/-- The next answer, and what is left of the script. -/
def take (s : Script) : Answer × Script :=
  match s.answers with
  | [] => (.never, { s with taken := s.taken + 1 })
  | [r] => (r, { s with taken := s.taken + 1 })
  | r :: rest => (r, ⟨rest, s.taken + 1⟩)

end Script

end IdentityClient.Simulation
