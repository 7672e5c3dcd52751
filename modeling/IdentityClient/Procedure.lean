import IdentityClient.Log
import IdentityClient.Net.Http
import IdentityClient.Transport.Target

/-!
# Procedures that deal with the outside

What the client does towards the outside is a procedure: it logs, reads the clocks, sends requests to
web servers and opens the connection for calls. What the outside makes of it is left open. A `World`
answers each step, knowing all that went before; `Procedure.run` follows a procedure through a world and
gives, with the result, everything that happened, the latest event first.
-/

namespace IdentityClient

inductive Procedure (α : Type) where
  | done (a : α)
  | log (r : LogRecord) (next : Procedure α)
  | clock (next : Moment → Procedure α)
  | send (r : HttpRequest) (next : HttpOutcome → Procedure α)
  | connect (t : ConnectTarget) (next : ConnectEnd → Procedure α)

/-- Something that a procedure did, with what came of it. -/
inductive Event where
  | logged (r : LogRecord)
  | clock (m : Moment)
  | sent (r : HttpRequest) (o : HttpOutcome)
  | connected (t : ConnectTarget) (e : ConnectEnd)
  deriving DecidableEq, Repr

/-- The outside: how it answers, after all that went before. -/
structure World where
  clock : List Event → Moment
  reply : List Event → HttpRequest → HttpOutcome
  connect : List Event → ConnectTarget → ConnectEnd

namespace Procedure

variable {α β : Type}

/-- One procedure after another. -/
def bind : Procedure α → (α → Procedure β) → Procedure β
  | .done a, f => f a
  | .log r p, f => .log r (p.bind f)
  | .clock k, f => .clock fun m => (k m).bind f
  | .send r k, f => .send r fun o => (k o).bind f
  | .connect t k, f => .connect t fun e => (k e).bind f

instance : Monad Procedure where
  pure := .done
  bind := bind

/-- Logs records in order, then goes on. -/
def logAll (records : List LogRecord) (p : Procedure α) : Procedure α := records.foldr .log p

/-- Follows a procedure through a world, where `past` has happened. -/
def run (w : World) (past : List Event) : Procedure α → List Event × α
  | .done a => (past, a)
  | .log r p => p.run w (.logged r :: past)
  | .clock k =>
    let m := w.clock past
    (k m).run w (.clock m :: past)
  | .send r k =>
    let o := w.reply past r
    (k o).run w (.sent r o :: past)
  | .connect t k =>
    let e := w.connect past t
    (k e).run w (.connected t e :: past)

theorem run_bind (w : World) (past : List Event) (p : Procedure α) (f : α → Procedure β) :
    (p.bind f).run w past = (f (p.run w past).2).run w (p.run w past).1 := by
  induction p generalizing past with
  | done a => rfl
  | log r p ih => exact ih _
  | clock k ih => exact ih _ _
  | send r k ih => exact ih _ _
  | connect t k ih => exact ih _ _

end Procedure

namespace Event

/-- What was logged, in order. -/
def records (events : List Event) : List LogRecord :=
  (events.filterMap fun e => match e with
    | .logged r => some r
    | _ => none).reverse

/-- The requests that were sent, in order. -/
def requests (events : List Event) : List HttpRequest :=
  (events.filterMap fun e => match e with
    | .sent r _ => some r
    | _ => none).reverse

end Event

end IdentityClient
