import IdentityClient.Proofs.Simulation.Lone
import IdentityClient.Simulation.Source

/-!
# Asking a source takes a time of its own

How long a source takes to answer, and what it answers, does not depend on how long the asker is going to wait: asking
for no longer than a limit is a wait for that answer under the limit (`Source.Calm.exists_reply`).
-/

namespace IdentityClient

/-- The duration in milliseconds, rounded up. -/
def Duration.ceilMillis (d : Duration) : Nat := (d.nanos + (nanosPerMilli - 1)) / nanosPerMilli

namespace Instant

/-- The clock shows a whole millisecond. -/
def IsWhole (t : Instant) : Prop := Duration.nanosPerMilli ∣ t.nanos

variable {t : Instant} {d : Duration}

theorem IsWhole.advance (h : t.IsWhole) (n : Nat) : (t.advance (.ofMillis n)).IsWhole :=
  Nat.dvd_add h (Nat.dvd_mul_left ..)

theorem IsWhole.tick_advance (h : t.IsWhole) (d : Duration) : (t.advance d).tick = t.millis + d.ceilMillis := by
  obtain ⟨n, hn⟩ := h
  simp only [tick, Instant.advance, millis, Duration.ceilMillis, Duration.nanosPerMilli] at hn ⊢
  omega

theorem IsWhole.after (h : t.IsWhole) (d : Duration) : t.after d = t.advance (.ofMillis d.ceilMillis) := by
  rw [Instant.after, jump, h.tick_advance, Nat.add_sub_cancel_left]

theorem IsWhole.tick_le_iff (h : t.IsWhole) (d b : Duration) :
    (t.advance d).tick ≤ (t.advance b).tick ↔ d.ceilMillis ≤ b.ceilMillis := by
  rw [h.tick_advance, h.tick_advance, Nat.add_le_add_iff_left]

theorem IsWhole.after_zero (h : t.IsWhole) : t.after ⟨0⟩ = t := by
  rw [h.after]
  simp [Duration.ceilMillis, Duration.ofMillis, Duration.nanosPerMilli, Instant.advance]

theorem IsWhole.wait_zero (h : t.IsWhole) (limit : Option Duration) : t.wait (some ⟨0⟩) limit = .finished t := by
  cases limit with
  | none => exact congrArg Wait.finished h.after_zero
  | some l =>
    have first : (t.advance ⟨0⟩).tick ≤ (t.advance l).tick := by
      rw [h.tick_le_iff]
      simp [Duration.ceilMillis, Duration.nanosPerMilli]
    rw [wait, if_pos first, h.after_zero]

/-- The wait for what comes after `d` is over then, or when the limit is up. -/
theorem wait_some (t : Instant) (d : Duration) (limit : Option Duration) :
    t.wait (some d) limit = .finished (t.after d) ∨ ∃ u, t.wait (some d) limit = .timedOut u := by
  cases limit with
  | none => exact .inl rfl
  | some b =>
    rw [wait]
    split
    · exact .inl rfl
    · exact .inr ⟨_, rfl⟩

end Instant

namespace Simulation

open Refreshing

/-- How a call ends that waits from `now` for a reply, which takes a while and comes to an outcome, or never comes. -/
def awaited (reply : Option (Duration × Outcome)) (now : Instant) (limit : Option Duration) : Option Ending :=
  match now.wait (reply.map (·.1)) limit with
  | .finished t => some ⟨reply.map (·.2), t⟩
  | .timedOut t => some ⟨none, t⟩
  | .endless => none

section
variable {now : Instant} {b d : Duration} {o : Outcome}

theorem awaited_none : awaited none now (some b) = some ⟨none, now.after b⟩ := rfl

theorem awaited_some : awaited (some (d, o)) now none = some ⟨some o, now.after d⟩ := rfl

theorem awaited_of_le (h : (now.advance d).tick ≤ (now.advance b).tick) :
    awaited (some (d, o)) now (some b) = some ⟨some o, now.after d⟩ := by
  rw [awaited, Option.map_some, Instant.wait, if_pos h]
  rfl

theorem awaited_of_lt (h : (now.advance b).tick < (now.advance d).tick) :
    awaited (some (d, o)) now (some b) = some ⟨none, now.after b⟩ := by
  rw [awaited, Option.map_some, Instant.wait, if_neg (Nat.not_le.2 h)]

theorem whole_of_awaited {reply : Option (Duration × Outcome)} {limit : Option Duration} {e : Ending}
    (h : now.IsWhole) (he : awaited reply now limit = some e) : e.at_.IsWhole := by
  have after (x : Duration) : (now.after x).IsWhole := by
    rw [h.after]
    exact h.advance _
  cases reply with
  | none =>
    cases limit with
    | none => cases he
    | some b =>
      cases he
      exact after b
  | some x =>
    obtain ⟨d, o⟩ := x
    cases limit with
    | none =>
      cases he
      exact after d
    | some b =>
      rcases Nat.lt_or_ge (now.advance b).tick (now.advance d).tick with late | inTime
      · rw [awaited_of_lt late] at he
        cases he
        exact after b
      · rw [awaited_of_le inTime] at he
        cases he
        exact after d

theorem awaited_zero (h : now.IsWhole) (limit : Option Duration) :
    awaited (some (⟨0⟩, o)) now limit = some ⟨some o, now⟩ := by
  rw [awaited, Option.map_some, h.wait_zero]
  rfl

end

namespace Timeline

variable {l : Timeline} {c d : CallId}

/-- Nothing is under way, and calls are numbered from `nextCall`. -/
structure Calm (l : Timeline) : Prop where
  orderly : l.state.Orderly
  alarms : l.alarms = []
  ready : l.ready = []
  unmade : ∀ c, l.nextCall ≤ c → l.state.phase c = .outside
  unlimited : ∀ c, l.nextCall ≤ c → l.limits.lookup c = none
  unended : ∀ c, l.nextCall ≤ c → l.endings.lookup c = none

/-- The alarm for the limit of call `c`. -/
def deadlines (now : Instant) (c : CallId) : Option Duration → List Alarm
  | none => []
  | some d => [⟨(now.advance d).tick, c, .deadline⟩]

/-- The limits, with that of call `c` if it has one. -/
def limitsWith (limits : List (CallId × Duration)) (c : CallId) : Option Duration → List (CallId × Duration)
  | none => limits
  | some d => (c, d) :: limits

/-- The state in which the next call has been made. -/
def entered (l : Timeline) : State := (l.state.goto l.nextCall .entered).note (.called l.nextCall)

/-- The timeline after its next call has been made, when nobody can go on. -/
def under (l : Timeline) (limit : Option Duration) (s : State) (script : Script) (alarms : List Alarm) : Timeline :=
  ⟨s, script, alarms, [], limitsWith l.limits l.nextCall limit, l.endings, l.nextCall + 1⟩

theorem adopt_of_owner_eq {s : State} (h : s.owner = l.state.owner) : l.adopt s = { l with state := s } := by
  unfold adopt
  cases ho : s.owner <;> simp [← h, ho]

theorem Calm.schedule (h : l.Calm) (limit : Option Duration) :
    l.schedule { limit } =
      { l.under limit l.entered l.script (deadlines l.state.now l.nextCall limit) with ready := [l.nextCall] } := by
  have made (m : Timeline) (state : m.state = l.state) : m.state.call l.nextCall = some l.entered := by
    rw [state, State.call, h.unmade _ (Nat.le_refl _)]
    rfl
  have taken (m : Timeline) (state : m.state = l.state) : m.adopt l.entered = { m with state := l.entered } :=
    adopt_of_owner_eq (by rw [state]; rfl)
  have now : l.entered.now = l.state.now := rfl
  cases limit with
  | none => simp [Timeline.schedule, make, made, taken, under, h.ready, h.alarms, h.unlimited, deadlines, limitsWith]
  | some d =>
    simp [Timeline.schedule, make, made, taken, under, h.ready, h.alarms, deadlines, limitsWith, setAlarm, now]

theorem settle_of_nil (h : l.ready = []) (n : Nat) : settle n l = l := by
  cases n with
  | zero => rfl
  | succ n => rw [settle, h]

/-- Call `c` is the only one that can go on. -/
theorem drain_of_ready (h : l.ready = []) {m : Timeline} (runs : runCall c callSteps l = m) (quiet : m.ready = [])
    (n : Nat) : drain (n + 1) { l with ready := [c] } = drain (n + 1) m := by
  have alone : ({ l with ready := [] } : Timeline) = l := by rw [← h]
  have settled (k : Nat) : settle (k + 1) { l with ready := [c] } = m := by
    rw [settle]
    dsimp only
    rw [alone, runs, settle_of_nil quiet]
  rw [drain, drain, settled, settle_of_nil quiet]

theorem drain_of_alarm {a : Alarm} (h : l.ready = []) (next : nextAlarm? l.alarms = some a) (n : Nat) :
    drain (n + 1) l = drain n (l.fire a) := by
  rw [drain, settle_of_nil h, next]

theorem drain_of_quiet (h : l.ready = []) (alarms : l.alarms = []) (n : Nat) : drain n l = l := by
  cases n with
  | zero => rfl
  | succ n => rw [drain, settle_of_nil h, alarms]; rfl

theorem jump_under (l : Timeline) (limit : Option Duration) (s : State) (script : Script) (alarms : List Alarm)
    (due : Nat) : (l.under limit s script alarms).jump due =
      l.under limit { s with now := s.now.jump due } script alarms := rfl

theorem under_alarms (l : Timeline) (limit : Option Duration) (s : State) (script : Script) (alarms : List Alarm) :
    (l.under limit s script alarms).alarms = alarms := rfl

theorem under_with_alarms (l : Timeline) (limit : Option Duration) (s : State) (script : Script)
    (alarms alarms' : List Alarm) :
    ({ l.under limit s script alarms with alarms := alarms' } : Timeline) = l.under limit s script alarms' := rfl

theorem under_with_state (l : Timeline) (limit : Option Duration) (s s' : State) (script : Script)
    (alarms : List Alarm) :
    ({ l.under limit s script alarms with state := s' } : Timeline) = l.under limit s' script alarms := rfl

/-- Within `n` alarms `m` becomes calm, and the next call of `l` ends as `e` says. -/
def Comes (l : Timeline) (n : Nat) (m : Timeline) (e : Option Ending) : Prop :=
  (drain n m).Calm ∧ (drain n m).endings.lookup l.nextCall = e

/-- `s` is what the calls other than the next call of `l` have not taken part in. -/
structure Apart (l : Timeline) (s : State) : Prop where
  orderly : s.Orderly
  lone : s.Lone l.nextCall
  others : ∀ d, d ≠ l.nextCall → s.phase d = l.state.phase d

variable {s : State} {limit : Option Duration} {script : Script} {alarms : List Alarm}

theorem Apart.jump (h : l.Apart s) (now : Instant) : l.Apart { s with now } :=
  ⟨h.orderly.congr rfl rfl fun _ => rfl, h.lone, h.others⟩

theorem Apart.move {s' : State} (h : l.Apart s) (m : State.Move s l.nextCall s') : l.Apart s' :=
  ⟨h.orderly.move m, h.lone.move h.orderly m, fun d hd => (m.phase_of_ne hd).trans (h.others d hd)⟩

theorem Apart.stop {k : Stop} (h : l.Apart s) (f : k.Follows l.nextCall s) : l.Apart k.state :=
  ⟨f.orderly, f.lone, fun d hd => (f.others d hd).trans (h.others d hd)⟩

theorem lookup_limitsWith_of_ne {limits : List (CallId × Duration)} (hd : d ≠ c) (limit : Option Duration) :
    (limitsWith limits c limit).lookup d = limits.lookup d := by
  cases limit with
  | none => rfl
  | some b => rw [limitsWith, List.lookup_cons, beq_false_of_ne hd]

/-- Nothing is left to be done when the call was alone. -/
theorem Calm.under (h : l.Calm) (apart : l.Apart s) : (l.under limit s script []).Calm where
  orderly := apart.orderly
  alarms := rfl
  ready := rfl
  unmade := fun d hd => (apart.others d (Nat.ne_of_gt hd)).trans (h.unmade d (Nat.le_of_lt hd))
  unlimited := fun d hd =>
    (lookup_limitsWith_of_ne (Nat.ne_of_gt hd) limit).trans (h.unlimited d (Nat.le_of_lt hd))
  unended := fun d hd => h.unended d (Nat.le_of_lt hd)

/-- The call waits, and nothing is going to come of that. -/
theorem Calm.comes_of_waiting (h : l.Calm) (apart : l.Apart s) (n : Nat) :
    l.Comes n (l.under limit s script []) none := by
  rw [Comes, drain_of_quiet rfl rfl]
  exact ⟨h.under apart, h.unended _ (Nat.le_refl _)⟩

/-- When the call is over, all alarms are its own. -/
theorem Calm.comes_of_ends (h : l.Calm) (apart : l.Apart s) (own : ∀ a ∈ alarms, a.call = l.nextCall)
    (o : Option Outcome) (n : Nat) :
    l.Comes n ((l.under limit s script alarms).close l.nextCall o) (some ⟨o, s.now⟩) := by
  have off : (alarms.filter fun a => a.call != l.nextCall) = [] := by simpa using own
  have closed : (l.under limit s script alarms).close l.nextCall o =
      { l.under limit s script [] with endings := (l.nextCall, ⟨o, s.now⟩) :: l.endings } := by
    rw [close, Timeline.under, off]
    rfl
  have calm : (l.under limit s script []).Calm := h.under apart
  rw [Comes, closed, drain_of_quiet rfl rfl]
  refine ⟨{ calm with unended := fun d hd => ?_ }, by simp⟩
  have later : d ≠ l.nextCall := Nat.ne_of_gt hd
  simp [List.lookup_cons, beq_false_of_ne later, h.unended d (Nat.le_of_lt hd)]

/-- The time of the call is up. -/
theorem Calm.comes_of_deadline {due : Nat} (h : l.Calm) (apart : l.Apart s)
    (own : ∀ a ∈ alarms, a.call = l.nextCall) (next : nextAlarm? alarms = some ⟨due, l.nextCall, .deadline⟩)
    (waiting : (s.phase l.nextCall).canQuit) (n : Nat) :
    l.Comes (n + 1) (l.under limit s script alarms) (some ⟨none, s.now.jump due⟩) := by
  have late := apart.jump (s.now.jump due)
  obtain ⟨s', dropped⟩ := State.exists_drop (s := { s with now := s.now.jump due }) waiting
  have quit := State.Move.of_drop dropped
  have fired : (l.under limit s script alarms).fire ⟨due, l.nextCall, .deadline⟩ =
      (l.under limit s' script (alarms.erase ⟨due, l.nextCall, .deadline⟩)).close l.nextCall none := by
    unfold fire expire Timeline.jump
    dsimp only [Timeline.under]
    rw [dropped]
    dsimp only
    rw [adopt_of_lone late.lone late.orderly quit]
  have at_ : s'.now = s.now.jump due := quit.now
  rw [Comes, drain_of_alarm rfl next, fired, ← at_]
  exact h.comes_of_ends (late.move quit) (fun a ha => own a (List.mem_of_mem_erase ha)) none n

/-- The call goes on when its exchange has come to an end, until it is over. -/
theorem Apart.exists_end {o : Outcome} (apart : l.Apart s) (hp : s.phase l.nextCall = .ended o) (script : Script) :
    ∃ s' script' o', l.Apart s' ∧ s'.now = s.now ∧ ∀ limit alarms,
      runCall l.nextCall callSteps (l.under limit s script alarms) =
        (l.under limit s' script' alarms).close l.nextCall (some o') := by
  obtain ⟨k, follows, runs⟩ := exists_stop callSteps script apart.orderly apart.lone
    (by simp [hp]) (by simp [hp]) (by simp [hp, Phase.stepsLeft, callSteps])
  obtain ⟨o', course⟩ := follows.ends (by simp [hp, Phase.stepsLeft])
  refine ⟨k.state, k.script, o', apart.stop follows, follows.now, fun limit alarms => ?_⟩
  rw [runs (l.under limit s script alarms) rfl rfl, Stop.apply_of_ends course]
  rfl

theorem fire_reply (l : Timeline) (due : Nat) (c : CallId) (a : Answer) :
    l.fire ⟨due, c, .reply a⟩ =
      let told := { l.jump due with alarms := l.alarms.erase ⟨due, c, .reply a⟩ }.deliver c a
      { told with ready := told.ready ++ [c] } := rfl

/-- The reply that the call waits for is there. -/
theorem Calm.exists_comes_of_reply {a : Answer} {b : Duration} (h : l.Calm) (apart : l.Apart s)
    (waiting : s.phase l.nextCall = .exchanging) (delay : a.delay? = some b) (due : Nat) (script : Script) :
    ∃ o, ∀ limit alarms n, (∀ x ∈ alarms, x.call = l.nextCall) →
      nextAlarm? alarms = some ⟨due, l.nextCall, .reply a⟩ →
      l.Comes (n + 2) (l.under limit s script alarms) (some ⟨some o, s.now.jump due⟩) := by
  -- Were the moment not to stay closed, comparing states would count the nanoseconds of its milliseconds.
  generalize jumped : s.now.jump due = now
  have late := apart.jump now
  obtain ⟨o, told⟩ := Answer.exists_outcome delay now
  obtain ⟨s', script', o', stopped, at_, ran⟩ :=
    (late.move (.finish o waiting)).exists_end (State.goto_phase_self ..) script
  refine ⟨o', fun limit alarms n own next => ?_⟩
  have delivered := deliver_of_exchanging (l := l.under limit { s with now } script
    (alarms.erase ⟨due, l.nextCall, .reply a⟩)) late.orderly late.lone waiting told
  have fired : (l.under limit s script alarms).fire ⟨due, l.nextCall, .reply a⟩ =
      { l.under limit (({ s with now }.goto l.nextCall (.ended o)).note (.ended l.nextCall o)) script
          (alarms.erase ⟨due, l.nextCall, .reply a⟩) with ready := [l.nextCall] } := by
    rw [fire_reply, jump_under, jumped, under_with_alarms, under_alarms, delivered, under_with_state]
    rfl
  rw [Comes, drain_of_alarm rfl next, fired, drain_of_ready rfl (ran limit _) rfl, ← show s'.now = now from at_]
  exact h.comes_of_ends stopped (fun x hx => own x (List.mem_of_mem_erase hx)) (some o') (n + 1)

theorem Calm.apart (h : l.Calm) : l.Apart l.entered := by
  have outside := h.unmade _ (Nat.le_refl _)
  have before : l.Apart l.state := ⟨h.orderly, h.orderly.lone (by rw [outside]; rfl), fun _ _ => rfl⟩
  exact before.move (.call outside)

theorem own_deadlines (now : Instant) (c : CallId) (limit : Option Duration) :
    ∀ a ∈ deadlines now c limit, a.call = c := by
  cases limit <;> simp [deadlines]

/-- A reply that comes at the limit is in time. -/
theorem nextAlarm?_pair (due due' : Nat) (c : CallId) (a : Answer) :
    nextAlarm? [⟨due, c, .deadline⟩, ⟨due', c, .reply a⟩] =
      if due' ≤ due then some ⟨due', c, .reply a⟩ else some ⟨due, c, .deadline⟩ := by
  have first : goesBefore ⟨due', c, .reply a⟩ ⟨due, c, .deadline⟩ = decide (due' ≤ due) := by
    have kinds : (AlarmKind.reply a != .deadline) = true := rfl
    rw [Bool.eq_iff_iff]
    simp [goesBefore, kinds, Nat.le_iff_lt_or_eq]
  simp only [nextAlarm?, first, decide_eq_true_eq]

theorem Calm.run_of_comes {m : Timeline} {e : Option Ending} (h : l.Calm)
    (ran : runCall l.nextCall callSteps (l.under limit l.entered l.script (deadlines l.state.now l.nextCall limit)) = m)
    (quiet : m.ready = []) (comes : l.Comes 4 m e) : (l.run [{ limit }]).1.Calm ∧ (l.run [{ limit }]).2 = [e] := by
  have drained : l.run [{ limit }] = (drain 4 m, [(drain 4 m).endings.lookup l.nextCall]) := by
    rw [run]
    simp only [List.foldl_cons, List.foldl_nil, h.schedule, List.length_singleton]
    rw [drain_of_ready rfl ran quiet]
    rfl
  rw [drained, comes.2]
  exact ⟨comes.1, rfl⟩

section
variable {k : Stop} {o : Outcome} {a : Answer} {b : Duration}

theorem apply_of_ends (h : k.course = .ends o) : k.apply l.nextCall (l.under limit s script alarms) =
    (l.under limit k.state k.script alarms).close l.nextCall (some o) := by
  rw [Stop.apply, h]
  rfl

theorem apply_of_waits (h : k.course = .waits) : k.apply l.nextCall (l.under limit s script alarms) =
    l.under limit k.state k.script alarms := by
  rw [Stop.apply, h]
  rfl

theorem apply_of_exchanges (h : k.course = .exchanges a b) : k.apply l.nextCall (l.under limit s script alarms) =
    l.under limit k.state k.script (alarms ++ [⟨(k.state.now.advance b).tick, l.nextCall, .reply a⟩]) := by
  rw [Stop.apply, h]
  rfl

end

/-- What the next call comes to does not depend on its limit, which ends its wait for that. -/
theorem Calm.asks (h : l.Calm) (whole : l.state.now.IsWhole) :
    ∃ reply, ∀ limit, (l.run [{ limit }]).1.Calm ∧ (l.run [{ limit }]).2 = [awaited reply l.state.now limit] := by
  have entered := h.apart
  have hp : l.entered.phase l.nextCall = .entered := State.goto_phase_self ..
  obtain ⟨k, follows, runs⟩ := exists_stop callSteps l.script entered.orderly entered.lone
    (by simp [hp]) (by simp [hp]) (by simp [hp, Phase.stepsLeft, callSteps])
  have stopped := entered.stop follows
  have now : k.state.now = l.state.now := follows.now
  have ran (limit : Option Duration) :=
    runs (l.under limit l.entered l.script (deadlines l.state.now l.nextCall limit)) rfl rfl
  cases course : k.course with
  | ends o =>
    refine ⟨some (⟨0⟩, o), fun limit => h.run_of_comes ((ran limit).trans (apply_of_ends course)) rfl ?_⟩
    rw [awaited_zero whole, ← now]
    exact h.comes_of_ends stopped (own_deadlines _ _ limit) (some o) 4
  | waits =>
    refine ⟨none, fun limit => h.run_of_comes ((ran limit).trans (apply_of_waits course)) rfl ?_⟩
    have waiting : (k.state.phase l.nextCall).canQuit := by
      rcases follows.waits course with hp | ⟨n, hp⟩ <;> rw [hp] <;> rfl
    cases limit with
    | none => exact h.comes_of_waiting stopped 4
    | some b =>
      rw [awaited_none, ← now, Instant.after]
      exact h.comes_of_deadline stopped (own_deadlines _ _ (some b)) rfl waiting 3
  | exchanges a d =>
    obtain ⟨waiting, delay, -⟩ := follows.exchanges a d course
    obtain ⟨o, replied⟩ := h.exists_comes_of_reply stopped waiting delay (k.state.now.advance d).tick k.script
    refine ⟨some (d, o), fun limit => h.run_of_comes ((ran limit).trans (apply_of_exchanges course)) rfl ?_⟩
    rw [← now]
    cases limit with
    | none =>
      rw [awaited_some, Instant.after]
      exact replied none _ 2 (by simp [deadlines]) rfl
    | some b =>
      have own : ∀ x ∈ deadlines k.state.now l.nextCall (some b) ++
          [⟨(k.state.now.advance d).tick, l.nextCall, .reply a⟩], x.call = l.nextCall := by simp [deadlines]
      have next := nextAlarm?_pair (k.state.now.advance b).tick (k.state.now.advance d).tick l.nextCall a
      by_cases first : (k.state.now.advance d).tick ≤ (k.state.now.advance b).tick
      · rw [if_pos first] at next
        rw [awaited_of_le first, Instant.after]
        exact replied (some b) _ 2 own next
      · rw [if_neg first] at next
        rw [awaited_of_lt (Nat.not_le.1 first), Instant.after]
        exact h.comes_of_deadline stopped own next (by rw [waiting]; rfl) 3

/-- A source that nobody has called yet. -/
theorem calm_start {s : State} (orderly : s.Orderly) (outside : ∀ c, s.phase c = .outside) (script : Script) :
    (start s script).Calm :=
  ⟨orderly, rfl, rfl, fun c _ => outside c, fun _ _ => rfl, fun _ _ => rfl⟩

theorem Calm.at_ (h : l.Calm) (now : Instant) : ({ l with state := { l.state with now } } : Timeline).Calm :=
  { h with orderly := h.orderly.congr rfl rfl fun _ => rfl }

end Timeline

namespace Source

/-- Nobody else waits for the source. -/
def Calm : Source → Prop
  | .refreshing l => l.Calm
  | .fixed _ | .scripted _ => True

variable {src : Source} {now : Instant}

/-- What asking a script comes to after a wait. -/
def afterWait (s : Script) : Wait → Asked
  | .finished t => ⟨s.take.1.outcomeAt? t, some t, .scripted s.take.2, []⟩
  | .timedOut t => ⟨none, some t, .scripted s.take.2, []⟩
  | .endless => ⟨none, none, .scripted s.take.2, []⟩

theorem askScript_eq (s : Script) (whole : now.IsWhole) (limit : Option Duration) :
    askScript s now limit = afterWait s (now.wait s.take.1.delay? limit) := by
  unfold askScript
  cases delay : s.take.1.delay? with
  | none =>
    simp only [delay]
    rfl
  | some d =>
    obtain ⟨n⟩ := d
    cases n with
    | zero =>
      simp only [delay, whole.wait_zero]
      rfl
    | succ n =>
      simp only [delay]
      rfl

/-- The source, asked at `now`, comes to `reply`, unless the limit for that is up first. -/
structure Replies (src : Source) (now : Instant) (reply : Option (Duration × TokenOutcome)) : Prop where
  outcome : ∀ limit, (src.ask now limit).outcome = (awaited reply now limit).bind (·.outcome)
  at_ : ∀ limit, (src.ask now limit).at_ = (awaited reply now limit).map (·.at_)
  calm : ∀ limit, (src.ask now limit).source.Calm

/-- What the source answers, and after how long, does not depend on the limit, which ends the wait for that. -/
theorem Calm.exists_reply (h : src.Calm) (whole : now.IsWhole) : ∃ reply, src.Replies now reply := by
  suffices replies : ∃ reply, ∀ limit, (src.ask now limit).source.Calm ∧
      (src.ask now limit).outcome = (awaited reply now limit).bind (·.outcome) ∧
      (src.ask now limit).at_ = (awaited reply now limit).map (·.at_) by
    obtain ⟨reply, asks⟩ := replies
    exact ⟨reply, fun limit => (asks limit).2.1, fun limit => (asks limit).2.2, fun limit => (asks limit).1⟩
  cases src with
  | fixed t =>
    refine ⟨some (⟨0⟩, .token t), fun limit => ?_⟩
    rw [awaited_zero whole]
    exact ⟨trivial, rfl, rfl⟩
  | scripted script =>
    cases delay : script.take.1.delay? with
    | none =>
      refine ⟨none, fun limit => ?_⟩
      simp only [ask, askScript_eq script whole, delay]
      cases limit <;> exact ⟨trivial, rfl, rfl⟩
    | some d =>
      obtain ⟨o, told⟩ := Answer.exists_outcome delay (now.after d)
      refine ⟨some (d, o), fun limit => ?_⟩
      simp only [ask, askScript_eq script whole, delay, awaited, Option.map_some]
      rcases now.wait_some d limit with waits | ⟨t, waits⟩ <;> rw [waits]
      · exact ⟨trivial, told, rfl⟩
      · exact ⟨trivial, rfl, rfl⟩
  | refreshing l =>
    obtain ⟨reply, asks⟩ := Timeline.Calm.asks (h.at_ now) whole
    refine ⟨reply, fun limit => ?_⟩
    obtain ⟨calm, endings⟩ := asks limit
    simp only [ask, askRefreshing, endings]
    cases ending : awaited reply now limit <;> exact ⟨calm, rfl, rfl⟩

end Source

end Simulation

end IdentityClient
