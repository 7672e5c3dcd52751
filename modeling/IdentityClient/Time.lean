/-!
# Durations, instants and waits

Durations and instants count whole nanoseconds. A duration is unbounded here, but an instant is not: the clock's
seconds are signed 64-bit words, so adding a duration may leave the representable range
(`Instant.add?_eq_some_iff`).
-/

namespace IdentityClient

/-- A span of time in nanoseconds. -/
structure Duration where
  nanos : Nat
  deriving DecidableEq, Repr, Inhabited

namespace Duration

def nanosPerSecond : Nat := 1000000000
def nanosPerMilli : Nat := 1000000

/-- A duration of `secs` seconds and `nanos` nanoseconds. -/
def ofParts (secs nanos : Nat) : Duration := ⟨secs * nanosPerSecond + nanos⟩

def ofSecs (secs : Nat) : Duration := ofParts secs 0
def ofMillis (millis : Nat) : Duration := ⟨millis * nanosPerMilli⟩

theorem ofSecs_eq (secs : Nat) : ofSecs secs = ⟨secs * nanosPerSecond⟩ := by
  rw [ofSecs, ofParts, Nat.add_zero]

/-- A number of ticks, of which `perSecond` make a second: the whole seconds, and what is left in nanoseconds. -/
def ofTicks (perSecond ticks : Nat) : Duration :=
  ofParts (ticks / perSecond) (ticks % perSecond * (nanosPerSecond / perSecond))

/-- Nothing is rounded where a tick is a whole number of nanoseconds. -/
theorem ofTicks_eq {perSecond : Nat} (whole : perSecond ∣ nanosPerSecond) (ticks : Nat) :
    ofTicks perSecond ticks = ⟨ticks * (nanosPerSecond / perSecond)⟩ := by
  obtain ⟨tick, h⟩ := whole
  have some_ticks : 0 < perSecond := Nat.pos_of_ne_zero (by rintro rfl; simp [nanosPerSecond] at h)
  rw [ofTicks, ofParts, h, Nat.mul_div_cancel_left _ some_ticks, ← Nat.mul_assoc, ← Nat.add_mul, Nat.div_add_mod']

/-- The longest span a 64-bit count of seconds can state. -/
def longest : Duration := ofParts (Nat.pow 2 64 - 1) 999999999

/-- Whole seconds. -/
def secs (d : Duration) : Nat := d.nanos / nanosPerSecond

/-- Nanoseconds past the last whole second. -/
def subsecNanos (d : Duration) : Nat := d.nanos % nanosPerSecond

theorem ofParts_secs_subsecNanos (d : Duration) : ofParts d.secs d.subsecNanos = d := by
  obtain ⟨n⟩ := d
  simp only [ofParts, secs, subsecNanos, mk.injEq]
  exact Nat.div_add_mod' n nanosPerSecond

/-- The fraction `part / unit` after the point, without trailing zeros; `places` digits at most. -/
def fractionDigits (part : Nat) : Nat → List Char
  | 0 => []
  | places + 1 =>
    if part = 0 then [] else
      let unit := Nat.pow 10 places
      Nat.digitChar (part / unit) :: fractionDigits (part % unit) places

/-- `whole.part` with at most `places` digits after the point and no trailing zeros. -/
def renderParts (whole part places : Nat) (unit : String) : String :=
  let digits := fractionDigits part places
  let point := if digits.isEmpty then "" else "."
  toString whole ++ point ++ String.ofList digits ++ unit

/-- A duration in the largest unit that leaves a whole part: `1.5s`, `250ms`, `1.5µs`, `1ns`. -/
def render (d : Duration) : String :=
  if d.nanos ≥ nanosPerSecond then renderParts d.secs d.subsecNanos 9 "s"
  else if d.nanos ≥ 1000000 then renderParts (d.nanos / 1000000) (d.nanos % 1000000) 6 "ms"
  else if d.nanos ≥ 1000 then renderParts (d.nanos / 1000) (d.nanos % 1000) 3 "µs"
  else renderParts d.nanos 0 0 "ns"

end Duration

/-- A moment of the monotonic clock, in nanoseconds since the clock's epoch. -/
structure Instant where
  nanos : Nat
  deriving DecidableEq, Repr, Inhabited

namespace Instant

/-- A moment in whole seconds and nanoseconds. -/
def ofParts (secs nanos : Nat) : Instant := ⟨secs * Duration.nanosPerSecond + nanos⟩

/-- Whole seconds. -/
def secs (t : Instant) : Nat := t.nanos / Duration.nanosPerSecond

/-- Nanoseconds past the last whole second. -/
def subsecNanos (t : Instant) : Nat := t.nanos % Duration.nanosPerSecond

/-- The last second the clock can state: its seconds are signed 64-bit words. -/
def maxSecs : Nat := Nat.pow 2 63 - 1

/-- The first moment the clock cannot state. -/
def limit : Nat := Nat.pow 2 63 * Duration.nanosPerSecond

/-- The moment `d` after `t`, if the clock can state it. The seconds are added, then the nanoseconds, which
may carry one more second; both may leave the range. -/
def add? (t : Instant) (d : Duration) : Option Instant :=
  let secs := t.secs + d.secs
  let nanos := t.subsecNanos + d.subsecNanos
  if maxSecs < secs then none
  else if nanos < Duration.nanosPerSecond then some (ofParts secs nanos)
  else if maxSecs < secs + 1 then none
  else some (ofParts (secs + 1) (nanos - Duration.nanosPerSecond))

theorem ofParts_secs_subsecNanos (t : Instant) : ofParts t.secs t.subsecNanos = t := by
  obtain ⟨n⟩ := t
  simp only [ofParts, secs, subsecNanos, mk.injEq]
  exact Nat.div_add_mod' n Duration.nanosPerSecond

/-- The two additions and the carry come to one addition of nanoseconds, and the two checks to one. -/
theorem add?_eq (t : Instant) (d : Duration) :
    t.add? d = if t.nanos + d.nanos < limit then some ⟨t.nanos + d.nanos⟩ else none := by
  have ht : t.secs * 1000000000 + t.subsecNanos = t.nanos := congrArg nanos t.ofParts_secs_subsecNanos
  have hd : d.secs * 1000000000 + d.subsecNanos = d.nanos := congrArg Duration.nanos d.ofParts_secs_subsecNanos
  have ht' : t.subsecNanos < 1000000000 := Nat.mod_lt _ (by decide)
  have hd' : d.subsecNanos < 1000000000 := Nat.mod_lt _ (by decide)
  unfold add? ofParts
  rw [show limit = (maxSecs + 1) * 1000000000 from rfl, show Duration.nanosPerSecond = 1000000000 from rfl,
    ← ht, ← hd]
  dsimp only
  generalize maxSecs = last, t.secs = a, d.secs = b, t.subsecNanos = x, d.subsecNanos = y at ht' hd' ⊢
  clear ht hd
  split
  · rw [if_neg (by omega)]
  split
  · have sum : (a + b) * 1000000000 + (x + y) = a * 1000000000 + x + (b * 1000000000 + y) := by omega
    rw [sum, if_pos (by omega)]
  -- The nanoseconds carry a second, which may be the one too many.
  split
  · rw [if_neg (by omega)]
  · have sum : (a + b + 1) * 1000000000 + (x + y - 1000000000) = a * 1000000000 + x + (b * 1000000000 + y) := by
      omega
    rw [sum, if_pos (by omega)]

theorem add?_eq_some_iff {t u : Instant} {d : Duration} :
    t.add? d = some u ↔ t.nanos + d.nanos < limit ∧ u.nanos = t.nanos + d.nanos := by
  cases u
  simp [add?_eq, eq_comm]

theorem add?_eq_none_iff {t : Instant} {d : Duration} :
    t.add? d = none ↔ limit ≤ t.nanos + d.nanos := by
  simp [add?_eq]

/-- The moment `d` after `t`, on a clock that is driven by hand. -/
def advance (t : Instant) (d : Duration) : Instant := ⟨t.nanos + d.nanos⟩

/-- How long from `t` until `u`, if `u` has not passed. -/
def until? (t u : Instant) : Option Duration :=
  if t.nanos ≤ u.nanos then some ⟨u.nanos - t.nanos⟩ else none

/-- Timers have a resolution of one millisecond: the first tick at or after this moment. -/
def tick (t : Instant) : Nat := (t.nanos + (Duration.nanosPerMilli - 1)) / Duration.nanosPerMilli

/-- Whole milliseconds since the epoch. -/
def millis (t : Instant) : Nat := t.nanos / Duration.nanosPerMilli

/-- Where a clock stands that moves from `t` to a tick of the timer: it moves by whole milliseconds. -/
def jump (t : Instant) (tick : Nat) : Instant := t.advance (.ofMillis (tick - t.millis))

/-- When a timer set at `t` to `d` goes off. -/
def after (t : Instant) (d : Duration) : Instant := t.jump (t.advance d).tick

/-- The same where the clock runs by itself: the first whole millisecond that is not too early. -/
def alarm (t : Instant) (d : Duration) : Instant := ⟨(t.advance d).tick * Duration.nanosPerMilli⟩

theorem le_alarm (t : Instant) (d : Duration) : t.nanos + d.nanos ≤ (t.alarm d).nanos := by
  simp only [alarm, tick, advance, Duration.nanosPerMilli]
  omega

theorem alarm_lt (t : Instant) (d : Duration) :
    (t.alarm d).nanos < t.nanos + d.nanos + Duration.nanosPerMilli := by
  simp only [alarm, tick, advance, Duration.nanosPerMilli]
  omega

end Instant

/-- What becomes of a wait for something that takes a while, or for ever, under a limit. -/
inductive Wait where
  | finished (at_ : Instant)
  | timedOut (at_ : Instant)
  | endless
  deriving DecidableEq, Repr

/-- Waits for something that is there after `length`; what is there when the limit is up still counts. -/
def Instant.wait (t : Instant) (length limit : Option Duration) : Wait :=
  match length, limit with
  | none, none => .endless
  | none, some l => .timedOut (t.after l)
  | some d, none => .finished (t.after d)
  | some d, some l =>
    if (t.advance d).tick ≤ (t.advance l).tick then .finished (t.after d) else .timedOut (t.after l)

/-- Waits for something outside of the program, which ends at its own time. -/
def Instant.await (t : Instant) (length limit : Option Duration) : Wait :=
  match length, limit with
  | none, none => .endless
  | none, some l => .timedOut (t.alarm l)
  | some d, none => .finished (t.advance d)
  | some d, some l =>
    if (t.advance d).nanos ≤ (t.alarm l).nanos then .finished (t.advance d) else .timedOut (t.alarm l)

/-- A moment on both clocks: the monotonic one, and the calendar in seconds since 1970. -/
structure Moment where
  clock : Instant
  date : Nat
  deriving DecidableEq, Repr

end IdentityClient
