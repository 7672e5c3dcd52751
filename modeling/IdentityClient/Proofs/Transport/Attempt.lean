import IdentityClient.Transport.Attempt

/-!
# How long a connection attempt takes

Under a limit every attempt ends. The part up to the open socket has the limit to itself, and with TLS the handshake
has it once more, from where the socket opened (`ConnectTarget.Ends`). So an attempt in the clear keeps the limit as a
whole (`ConnectTarget.KeepsLimit`), and one with TLS is only sure to end within twice the limit (`attempt_limited`), which
it may take (`attempt_evenly`).
-/

namespace IdentityClient

namespace Instant

/-- What takes `length` from `t` on is there when a timer that was set at `t` to `limit` goes off. -/
def InTime (t : Instant) (limit : Duration) : Option Duration → Prop
  | some length => (t.advance length).nanos ≤ (t.alarm limit).nanos
  | none => False

variable {t : Instant} {limit : Duration} {length : Option Duration}

theorem InTime.of_le {d : Duration} (h : d.nanos ≤ limit.nanos) : t.InTime limit (some d) :=
  Nat.le_trans (Nat.add_le_add_left h t.nanos) (t.le_alarm limit)

theorem InTime.lt {d : Duration} (h : t.InTime limit (some d)) : d.nanos < limit.nanos + Duration.nanosPerMilli := by
  have alarm := t.alarm_lt limit
  have le : t.nanos + d.nanos ≤ (t.alarm limit).nanos := h
  omega

theorem await_of_inTime {d : Duration} (h : t.InTime limit (some d)) :
    t.await (some d) (some limit) = .finished (t.advance d) :=
  if_pos h

theorem await_of_late (h : ¬ t.InTime limit length) : t.await length (some limit) = .timedOut (t.alarm limit) := by
  cases length with
  | none => rfl
  | some d => exact if_neg h

end Instant

/-- It ended, less than `d` after `start`. -/
def AttemptEnd.Before (e : AttemptEnd) (start : Instant) (d : Duration) : Prop :=
  ∃ now, e.at? = some now ∧ start.nanos ≤ now.nanos ∧ now.nanos < start.nanos + d.nanos

/-- A limit with the resolution of the timer that keeps it. -/
def Duration.upToTick (limit : Duration) : Duration := ⟨limit.nanos + nanosPerMilli⟩

namespace Part

variable {p : Part} {host : String} {limit : Duration} {start now : Instant} {e : AttemptEnd}

/-- How a part ends that has the limit to itself. -/
inductive Ends (p : Part) (host : String) (limit : Duration) (start : Instant) : AttemptEnd → Prop where
  | opened {d : Duration} (outcome : p.outcome = ⟨none, some d⟩) (inTime : start.InTime limit (some d)) :
      Ends p host limit start (.opened (start.advance d))
  | failed {fault : ConnectFault} {d : Duration} (outcome : p.outcome = ⟨some fault, some d⟩)
      (inTime : start.InTime limit (some d)) : Ends p host limit start (.failed fault (start.advance d))
  | late (late : ¬ start.InTime limit p.outcome.length) :
      Ends p host limit start (.failed (.timedOut host) (start.alarm limit))

theorem run_of_opened {d : Duration} (outcome : p.outcome = ⟨none, some d⟩) (inTime : start.InTime limit (some d)) :
    (p.run host (some limit) start).2 = .opened (start.advance d) := by
  rw [run, outcome, Instant.await_of_inTime inTime]

theorem run_of_failed {fault : ConnectFault} {d : Duration} (outcome : p.outcome = ⟨some fault, some d⟩)
    (inTime : start.InTime limit (some d)) :
    (p.run host (some limit) start).2 = .failed fault (start.advance d) := by
  rw [run, outcome, Instant.await_of_inTime inTime]

theorem run_of_late (late : ¬ start.InTime limit p.outcome.length) :
    (p.run host (some limit) start).2 = .failed (.timedOut host) (start.alarm limit) := by
  rw [run, Instant.await_of_late late]

theorem run_ends (p : Part) (host : String) (limit : Duration) (start : Instant) :
    p.Ends host limit start (p.run host (some limit) start).2 := by
  by_cases inTime : start.InTime limit p.outcome.length
  · match outcome : p.outcome with
    | ⟨value, none⟩ =>
      rw [outcome] at inTime
      exact inTime.elim
    | ⟨none, some d⟩ =>
      rw [outcome] at inTime
      rw [run_of_opened outcome inTime]
      exact .opened outcome inTime
    | ⟨some fault, some d⟩ =>
      rw [outcome] at inTime
      rw [run_of_failed outcome inTime]
      exact .failed outcome inTime
  · rw [run_of_late inTime]
    exact .late inTime

theorem Ends.before (ends : p.Ends host limit start e) : e.Before start limit.upToTick := by
  cases ends with
  | @opened d outcome inTime | @failed fault d outcome inTime =>
    exact ⟨start.advance d, rfl, Nat.le_add_right _ _, Nat.add_lt_add_left inTime.lt start.nanos⟩
  | late late =>
    have notBefore : start.nanos ≤ (start.alarm limit).nanos := Nat.le_trans (Nat.le_add_right _ _) (start.le_alarm limit)
    have notAfter : (start.alarm limit).nanos < start.nanos + limit.upToTick.nanos := by
      rw [Duration.upToTick, ← Nat.add_assoc]
      exact start.alarm_lt limit
    exact ⟨start.alarm limit, rfl, notBefore, notAfter⟩

theorem Ends.of_opened (ends : p.Ends host limit start (.opened now)) :
    ∃ d, p.outcome = ⟨none, some d⟩ ∧ start.InTime limit (some d) ∧ now = start.advance d := by
  cases ends with
  | @opened d outcome inTime => exact ⟨d, outcome, inTime, rfl⟩

theorem Ends.of_failed {fault : ConnectFault} (ends : p.Ends host limit start (.failed fault now)) :
    fault = .timedOut host ∨ p.outcome.value = some fault := by
  cases ends with
  | failed outcome inTime => exact .inr (congrArg Timed.value outcome)
  | late late => exact .inl rfl

end Part

namespace ConnectTarget

/-- What looking the host up and connecting to it come to, and how long they take together. -/
def socket (t : ConnectTarget) (route : Route) : Timed (Option ConnectFault) := (Part.openSocket t.host route).outcome

/-- How long an attempt takes where nothing cuts it short. -/
def length (t : ConnectTarget) (route : Route) : Option Duration :=
  match t.tls, (t.socket route).length, route.handshake.length with
  | none, d, _ => d
  | some _, some d, some h => some ⟨d.nanos + h.nanos⟩
  | some _, _, _ => none

variable {t : ConnectTarget} {route : Route} {start now : Instant} {limit : Duration} {e : AttemptEnd}

/-- How an attempt under a limit ends. -/
inductive Ends (t : ConnectTarget) (route : Route) (start : Instant) (limit : Duration) : AttemptEnd → Prop where
  | unreached {fault : ConnectFault} {now : Instant}
      (socket : (Part.openSocket t.host route).Ends t.host limit start (.failed fault now)) :
      Ends t route start limit (.failed fault now)
  | plain {now : Instant} (plain : t.tls = none)
      (socket : (Part.openSocket t.host route).Ends t.host limit start (.opened now)) :
      Ends t route start limit (.opened now)
  | secure {session : TlsSession} {now : Instant} {e : AttemptEnd} (secure : t.tls = some session)
      (socket : (Part.openSocket t.host route).Ends t.host limit start (.opened now))
      (handshake : (Part.handshake route).Ends t.host limit now e) : Ends t route start limit e

theorem attempt_of_opened {session : TlsSession} (secure : t.tls = some session)
    (socket : ((Part.openSocket t.host route).run t.host t.settings.connectTimeout start).2 = .opened now) :
    (t.attempt route start).2 = ((Part.handshake route).run t.host t.settings.connectTimeout now).2 := by
  simp only [attempt, socket, secure]

theorem attempt_of_failed {fault : ConnectFault}
    (socket : ((Part.openSocket t.host route).run t.host t.settings.connectTimeout start).2 = .failed fault now) :
    (t.attempt route start).2 = .failed fault now := by
  simp only [attempt, socket]

theorem attempt_of_plain (plain : t.tls = none) :
    (t.attempt route start).2 = ((Part.openSocket t.host route).run t.host t.settings.connectTimeout start).2 := by
  simp only [attempt, plain]
  generalize (Part.openSocket t.host route).run t.host t.settings.connectTimeout start = ran
  obtain ⟨log, e⟩ := ran
  cases e <;> rfl

theorem attempt_ends (limited : t.settings.connectTimeout = some limit) (route : Route) (start : Instant) :
    t.Ends route start limit (t.attempt route start).2 := by
  have socket := Part.run_ends (Part.openSocket t.host route) t.host limit start
  rw [← limited] at socket
  match ended : ((Part.openSocket t.host route).run t.host t.settings.connectTimeout start).2, tls : t.tls with
  | .failed fault now, _ =>
    rw [ended] at socket
    rw [attempt_of_failed ended]
    exact .unreached socket
  | .endless, _ =>
    rw [ended] at socket
    cases socket
  | .opened now, none =>
    rw [ended] at socket
    rw [attempt_of_plain tls, ended]
    exact .plain tls socket
  | .opened now, some session =>
    rw [ended] at socket
    rw [attempt_of_opened tls ended, limited]
    exact .secure tls socket (Part.run_ends _ _ _ _)

/-- The host is reached before the limit is over. -/
def Reaches (t : ConnectTarget) (route : Route) (start : Instant) (limit d : Duration) : Prop :=
  t.socket route = ⟨none, some d⟩ ∧ start.InTime limit (some d)

/-- The attempt opens at `now`: whatever there is to do is in time, the handshake counted from where the host was
reached. -/
def OpensAt (t : ConnectTarget) (route : Route) (start : Instant) (limit : Duration) (now : Instant) : Prop :=
  ∃ d, t.Reaches route start limit d ∧
    match t.tls with
    | none => now = start.advance d
    | some _ => ∃ h, route.handshake = ⟨none, some h⟩ ∧ (start.advance d).InTime limit (some h) ∧
        now = (start.advance d).advance h

/-- The attempt opens only if all of it takes no longer than the limit, and has ended when the limit is over. -/
structure KeepsLimit (t : ConnectTarget) (route : Route) (start : Instant) (limit : Duration) : Prop where
  opened : ∀ now, (t.attempt route start).2 = .opened now → ∃ d, t.length route = some d ∧ d.nanos < limit.upToTick.nanos
  ended : (t.attempt route start).2.Before start limit.upToTick

theorem handshake_opened {route : Route} {d : Duration} :
    (Part.handshake route).outcome = ⟨none, some d⟩ ↔ route.handshake = ⟨none, some d⟩ := by
  obtain ⟨lookup, ⟨value, length⟩⟩ := route
  simp [Part.handshake]

theorem run_of_reaches (limited : t.settings.connectTimeout = some limit) {d : Duration}
    (reached : t.Reaches route start limit d) :
    ((Part.openSocket t.host route).run t.host t.settings.connectTimeout start).2 = .opened (start.advance d) := by
  rw [limited]
  exact Part.run_of_opened reached.1 reached.2

theorem attempt_opened_iff (limited : t.settings.connectTimeout = some limit) :
    (t.attempt route start).2 = .opened now ↔ t.OpensAt route start limit now := by
  constructor
  · intro opened
    have ends := attempt_ends limited route start
    rw [opened] at ends
    cases ends with
    | plain plain socket =>
      obtain ⟨d, outcome, inTime, rfl⟩ := socket.of_opened
      refine ⟨d, ⟨outcome, inTime⟩, ?_⟩
      rw [plain]
    | secure secure socket handshake =>
      obtain ⟨d, outcome, inTime, rfl⟩ := socket.of_opened
      obtain ⟨h, shook, inTime_h, rfl⟩ := handshake.of_opened
      refine ⟨d, ⟨outcome, inTime⟩, ?_⟩
      rw [secure]
      exact ⟨h, handshake_opened.mp shook, inTime_h, rfl⟩
  · rintro ⟨d, reached, rest⟩
    have socket := run_of_reaches limited reached
    cases tls : t.tls with
    | none =>
      rw [tls] at rest
      rw [attempt_of_plain tls, socket, rest]
    | some session =>
      rw [tls] at rest
      obtain ⟨h, shook, inTime_h, rfl⟩ := rest
      rw [attempt_of_opened tls socket, limited]
      exact Part.run_of_opened (handshake_opened.mpr shook) inTime_h

theorem Ends.before (ends : t.Ends route start limit e) : e.Before start ⟨2 * limit.upToTick.nanos⟩ := by
  cases ends with
  | unreached socket | plain plain socket =>
    obtain ⟨now, at_, notBefore, notAfter⟩ := socket.before
    exact ⟨now, at_, notBefore, by dsimp only; omega⟩
  | secure secure socket handshake =>
    obtain ⟨reached, at_, reachedAfter, reachedBefore⟩ := socket.before
    cases at_
    obtain ⟨now, at_, notBefore, notAfter⟩ := handshake.before
    exact ⟨now, at_, by omega, by dsimp only; omega⟩

/-- Without a handshake the limit of the first part is the limit of the whole attempt. -/
theorem keepsLimit_of_no_handshake (limited : t.settings.connectTimeout = some limit)
    (none_ : t.tls = none ∨ ∀ d, ¬ t.Reaches route start limit d) : t.KeepsLimit route start limit := by
  constructor
  · intro now opened
    obtain ⟨d, reached, -⟩ := (attempt_opened_iff limited).mp opened
    obtain plain | unreached := none_
    · have whole : t.length route = some d := by
        simp only [length, plain, reached.1]
      exact ⟨d, whole, reached.2.lt⟩
    · exact absurd reached (unreached d)
  · have ends := attempt_ends limited route start
    generalize (t.attempt route start).2 = e at ends
    cases ends with
    | unreached socket | plain plain socket => exact socket.before
    | secure secure socket handshake =>
      obtain ⟨d, outcome, inTime, -⟩ := socket.of_opened
      obtain plain | unreached := none_
      · rw [plain] at secure
        cases secure
      · exact absurd ⟨outcome, inTime⟩ (unreached d)

theorem handshake_before (limited : t.settings.connectTimeout = some limit) (secure : t.tls ≠ none) {d : Duration}
    (reached : t.Reaches route start limit d) :
    (t.attempt route start).2.Before (start.advance d) limit.upToTick := by
  obtain ⟨session, tls⟩ := Option.ne_none_iff_exists'.mp secure
  rw [attempt_of_opened tls (run_of_reaches limited reached), limited]
  exact (Part.run_ends _ _ _ _).before

theorem fault_of_failed (limited : t.settings.connectTimeout = some limit) {fault : ConnectFault}
    (failed : (t.attempt route start).2 = .failed fault now) :
    fault = .timedOut t.host ∨ (t.socket route).value = some fault ∨
      t.tls ≠ none ∧ route.handshake.value.map .handshake = some fault := by
  have ends := attempt_ends limited route start
  rw [failed] at ends
  cases ends with
  | unreached socket => exact socket.of_failed.imp_right .inl
  | secure secure socket handshake =>
    have tls : t.tls ≠ none := by simp [secure]
    exact handshake.of_failed.imp_right fun cause => .inr ⟨tls, cause⟩

end ConnectTarget

/-- A network where the one address of a host takes `d` to reach, and the handshake takes `d` again. -/
def Route.evenly (d : Duration) : Route where
  lookup := ⟨.ok [("192.0.2.1:443", ⟨none, some d⟩)], some ⟨0⟩⟩
  handshake := ⟨none, some d⟩

namespace ConnectTarget

variable {t : ConnectTarget} {limit : Duration}

theorem socket_evenly (t : ConnectTarget) (d : Duration) : t.socket (.evenly d) = ⟨none, some d⟩ := by
  simp [socket, Route.evenly, Part.openSocket, Part.tryAddresses]

theorem attempt_evenly (limited : t.settings.connectTimeout = some limit) (secure : t.tls ≠ none) (start : Instant) :
    (t.attempt (.evenly limit) start).2 = .opened ((start.advance limit).advance limit) := by
  obtain ⟨session, tls⟩ := Option.ne_none_iff_exists'.mp secure
  refine (attempt_opened_iff limited).mpr ⟨limit, ⟨socket_evenly t limit, .of_le (Nat.le_refl _)⟩, ?_⟩
  rw [tls]
  exact ⟨limit, rfl, .of_le (Nat.le_refl _), rfl⟩

/-- Whatever the limit, from the resolution of the timer on: not every attempt with a handshake keeps it. -/
theorem not_keepsLimit_evenly (limited : t.settings.connectTimeout = some limit) (secure : t.tls ≠ none)
    (start : Instant) (tick : Duration.nanosPerMilli ≤ limit.nanos) : ¬ t.KeepsLimit (.evenly limit) start limit := by
  intro keeps
  obtain ⟨now, at_, -, before⟩ := keeps.ended
  rw [attempt_evenly limited secure start] at at_
  cases at_
  simp only [Instant.advance, Duration.upToTick] at before
  omega

/-- A server that speaks TLS, to be connected to within 100 ms. -/
def inTenth : ConnectTarget where
  host := "id.example.com:443"
  tls := some ⟨⟨true, ["h2"]⟩, .dns "id.example.com"⟩
  settings := { connectTimeout := some (.ofMillis 100) }

/-- What a time limit makes of an attempt, whatever the network does. -/
structure Limited (t : ConnectTarget) (route : Route) (start : Instant) (limit : Duration) : Prop where
  /-- There is an end in any case, before the limit has passed twice. -/
  ended : (t.attempt route start).2.Before start ⟨2 * limit.upToTick.nanos⟩
  noHandshake : (t.tls = none ∨ ∀ d, ¬ t.Reaches route start limit d) → t.KeepsLimit route start limit
  /-- The handshake has the limit once more. -/
  handshake : t.tls ≠ none → ∀ d, t.Reaches route start limit d →
    (t.attempt route start).2.Before (start.advance d) limit.upToTick
  opened : ∀ now, (t.attempt route start).2 = .opened now ↔ t.OpensAt route start limit now
  /-- It fails with what the network came to, or since it took too long. -/
  failed : ∀ fault now, (t.attempt route start).2 = .failed fault now →
    fault = .timedOut t.host ∨ (t.socket route).value = some fault ∨
      t.tls ≠ none ∧ route.handshake.value.map .handshake = some fault

theorem attempt_limited (limited : t.settings.connectTimeout = some limit) (route : Route) (start : Instant) :
    t.Limited route start limit where
  ended := (attempt_ends limited route start).before
  noHandshake := keepsLimit_of_no_handshake limited
  handshake := fun secure _ reached => handshake_before limited secure reached
  opened := fun _ => attempt_opened_iff limited
  failed := fun _ _ => fault_of_failed limited

/-- A silent server: the handshake never ends, and the attempt gives up. -/
theorem attempt_limited_silent :
    let route : Route := { Route.evenly (.ofMillis 80) with handshake := ⟨none, none⟩ }
    inTenth.settings.connectTimeout = some (.ofMillis 100) ∧
      (inTenth.attempt route ⟨0⟩).2 = .failed (.timedOut "id.example.com:443") ⟨180000000⟩ ∧
      inTenth.Limited route ⟨0⟩ (.ofMillis 100) := by
  refine ⟨rfl, ?_, attempt_limited rfl _ _⟩
  decide

/-- The documented bound on lookup, connect and handshake as a whole is not kept: under a limit of 100 ms an attempt
opens after 200 ms. -/
theorem attempt_exceeds_limit :
    (inTenth.attempt (.evenly (.ofMillis 100)) ⟨0⟩).2 = .opened ⟨200000000⟩ ∧
      ¬ ∀ (t : ConnectTarget) (limit : Duration), t.settings.connectTimeout = some limit →
        ∀ route start, t.KeepsLimit route start limit := by
  constructor
  · exact attempt_evenly rfl (by decide) ⟨0⟩
  · intro keeps
    exact not_keepsLimit_evenly rfl (by decide) ⟨0⟩ (by decide) (keeps inTenth (.ofMillis 100) rfl _ _)

end ConnectTarget

end IdentityClient
