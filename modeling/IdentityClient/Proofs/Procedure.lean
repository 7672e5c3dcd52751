import IdentityClient.Procedure

/-!
# What a procedure can do

`Procedure.Ran p es a`: the procedure `p` can meet the events `es`, in this order, and give `a`. A procedure that is run
in a world did so (`Procedure.ran_run`), and what one procedure after another did splits between them
(`Procedure.ran_bind`), so a procedure's possible runs are found piece by piece, without a world.
-/

namespace IdentityClient

/-- A world where nothing answers. -/
def World.silent : World := ⟨fun _ => ⟨⟨0⟩, 0⟩, fun _ _ => .unanswered, fun _ _ => ⟨[], .endless⟩⟩

namespace Event

/-- The requests that were sent, in order, with what came of each. -/
def sends (es : List Event) : List (HttpRequest × HttpOutcome) :=
  es.filterMap fun
    | .sent r o => some (r, o)
    | _ => none

variable {es : List Event}

@[simp] theorem sends_nil : sends [] = [] := rfl

@[simp] theorem sends_logged (r : LogRecord) : sends (.logged r :: es) = sends es := rfl

@[simp] theorem sends_clock (m : Moment) : sends (.clock m :: es) = sends es := rfl

@[simp] theorem sends_sent (r : HttpRequest) (o : HttpOutcome) : sends (.sent r o :: es) = (r, o) :: sends es := rfl

@[simp] theorem sends_append (es later : List Event) : sends (es ++ later) = sends es ++ sends later :=
  List.filterMap_append

end Event

namespace Procedure

variable {α β : Type} {p : Procedure α} {f : α → Procedure β} {es : List Event} {a : α} {b : β}

inductive Ran : Procedure α → List Event → α → Prop where
  | done (a : α) : Ran (.done a) [] a
  | log (r : LogRecord) {p : Procedure α} {es : List Event} {a : α} (later : Ran p es a) :
      Ran (.log r p) (.logged r :: es) a
  | clock (m : Moment) {k : Moment → Procedure α} {es : List Event} {a : α} (later : Ran (k m) es a) :
      Ran (.clock k) (.clock m :: es) a
  | send (r : HttpRequest) (o : HttpOutcome) {k : HttpOutcome → Procedure α} {es : List Event} {a : α}
      (later : Ran (k o) es a) : Ran (.send r k) (.sent r o :: es) a
  | connect (t : ConnectTarget) (e : ConnectEnd) {k : ConnectEnd → Procedure α} {es : List Event} {a : α}
      (later : Ran (k e) es a) : Ran (.connect t k) (.connected t e :: es) a

/-- In a world, what happens is added to the past. -/
theorem ran_run (w : World) (past : List Event) (p : Procedure α) :
    ∃ es, (p.run w past).1 = es.reverse ++ past ∧ p.Ran es (p.run w past).2 := by
  induction p generalizing past with
  | done a => exact ⟨[], rfl, .done a⟩
  | log r p ih =>
    obtain ⟨es, events, ran⟩ := ih (.logged r :: past)
    exact ⟨.logged r :: es, by simpa [run] using events, .log r ran⟩
  | clock k ih =>
    obtain ⟨es, events, ran⟩ := ih (w.clock past) (.clock (w.clock past) :: past)
    exact ⟨.clock (w.clock past) :: es, by simpa [run] using events, .clock _ ran⟩
  | send r k ih =>
    obtain ⟨es, events, ran⟩ := ih (w.reply past r) (.sent r (w.reply past r) :: past)
    exact ⟨.sent r (w.reply past r) :: es, by simpa [run] using events, .send r _ ran⟩
  | connect t k ih =>
    obtain ⟨es, events, ran⟩ := ih (w.connect past t) (.connected t (w.connect past t) :: past)
    exact ⟨.connected t (w.connect past t) :: es, by simpa [run] using events, .connect t _ ran⟩

theorem ran_bind (ran : (p.bind f).Ran es b) :
    ∃ first later a, es = first ++ later ∧ p.Ran first a ∧ (f a).Ran later b := by
  induction p generalizing es with
  | done a => exact ⟨[], es, a, rfl, .done a, ran⟩
  | log r p ih =>
    cases ran with
    | log r ran =>
      obtain ⟨first, later, a, rfl, here, there⟩ := ih ran
      exact ⟨.logged r :: first, later, a, rfl, .log r here, there⟩
  | clock k ih =>
    cases ran with
    | clock m ran =>
      obtain ⟨first, later, a, rfl, here, there⟩ := ih m ran
      exact ⟨.clock m :: first, later, a, rfl, .clock m here, there⟩
  | send r k ih =>
    cases ran with
    | send r o ran =>
      obtain ⟨first, later, a, rfl, here, there⟩ := ih o ran
      exact ⟨.sent r o :: first, later, a, rfl, .send r o here, there⟩
  | connect t k ih =>
    cases ran with
    | connect t e ran =>
      obtain ⟨first, later, a, rfl, here, there⟩ := ih e ran
      exact ⟨.connected t e :: first, later, a, rfl, .connect t e here, there⟩

theorem ran_done {a' : α} (ran : (Procedure.done a).Ran es a') : es = [] ∧ a' = a := by
  cases ran
  exact ⟨rfl, rfl⟩

theorem ran_logAll {records : List LogRecord} (ran : (logAll records p).Ran es a) :
    ∃ later, es = records.map .logged ++ later ∧ p.Ran later a := by
  induction records generalizing es with
  | nil => exact ⟨es, rfl, ran⟩
  | cons r records ih =>
    cases ran with
    | log r ran =>
      obtain ⟨later, rfl, there⟩ := ih ran
      exact ⟨later, rfl, there⟩

end Procedure

end IdentityClient
