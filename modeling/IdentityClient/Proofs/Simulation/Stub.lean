import IdentityClient.Proofs.Grpc.Call
import IdentityClient.Proofs.Simulation.Deadline
import IdentityClient.Simulation.Stub

/-!
# The stages of a call through a stub

A call can fail before its transport is called: first if the clone that is made for it is not ready, then if its method
forms no path. In neither case the transport or the token source is asked for anything (`Session.Untouched`). Otherwise the
clone is called exactly once (`Session.CallsOnce`), with what the call is at its origin (`Call.posted`), and the call ends as
the fetch of its credentials says (`Session.EndsAs`). A call for a single message and one for a stream do the same up to
here, and fail alike (`Session.Staged`).
-/

namespace IdentityClient

namespace Credentials

variable {ρ : Type} {s t u : State ρ} {a : Action ρ} {c : CallId}

/-- Something that happens to call `c` after it has been made. -/
def Event.Follows (c : CallId) (e : Event ρ) : Prop := e.call? = some c ∧ ∀ v i r, e ≠ .called c v i r

/-- All that has happened from `s` to `t` has happened to call `c` after it had been made. -/
def State.Continues (s : State ρ) (c : CallId) (t : State ρ) : Prop :=
  ∃ later, t.history = later ++ s.history ∧ ∀ e ∈ later, e.Follows c

theorem State.made_history (s : State ρ) (c : CallId) (v : ServiceId) (r : Request) :
    (s.made c v r).history = .called c v (s.holds v) r :: .ready v (s.holds v) :: s.history := rfl

theorem State.sent_answer (s : State ρ) (c d : CallId) (x : ρ) : ((s.answer c x).getD s).sent d = s.sent d := by
  unfold State.answer
  split <;> rfl

namespace State.Continues

theorem refl (s : State ρ) (c : CallId) : s.Continues c s := ⟨[], rfl, nofun⟩

theorem trans (h : s.Continues c t) (h' : t.Continues c u) : s.Continues c u := by
  obtain ⟨later, history, follows⟩ := h
  obtain ⟨later', history', follows'⟩ := h'
  refine ⟨later' ++ later, ?_, ?_⟩
  · rw [history', history, List.append_assoc]
  · intro e he
    obtain he | he := List.mem_append.mp he
    · exact follows' e he
    · exact follows e he

theorem of_move (m : s.Move a t) (own : a.call? = some c) (made : ∀ v r, a ≠ .call c v r) : s.Continues c t := by
  have one {e : Event ρ} (history : t.history = e :: s.history) (follows : e.Follows c) : s.Continues c t :=
    ⟨[e], history, fun e he => (List.mem_singleton.mp he) ▸ follows⟩
  cases m with
  | ready | clone | replace => cases own
  | call => cases own; exact absurd rfl (made _ _)
  | refuse | ask | pass | attach | fail | expire | answer | drop =>
    cases own
    exact one rfl ⟨rfl, nofun⟩

theorem getD {o : Option (State ρ)} (m : ∀ t, o = some t → s.Move a t) (own : a.call? = some c)
    (made : ∀ v r, a ≠ .call c v r) : s.Continues c (o.getD s) := by
  cases o with
  | none => exact .refl s c
  | some t => exact .of_move (m t rfl) own made

theorem begin (s : State ρ) (c : CallId) : s.Continues c ((s.begin c).getD s) :=
  .getD (fun _ => .of_begin) rfl nofun

theorem answer (s : State ρ) (c : CallId) (x : ρ) : s.Continues c ((s.answer c x).getD s) :=
  .getD (fun _ => .of_answer) rfl nofun

end State.Continues

end Credentials

namespace Simulation.Session

open Credentials Grpc

section
variable {ρ : Type} {s : Session ρ} {v : ServiceId} {r : Request}

theorem continues_told (t : Credentials.State ρ) (c : CallId) (isLimit : Bool) (o : Option TokenOutcome) :
    t.Continues c ((told t c isLimit o).getD t) := by
  cases o with
  | some o => exact .getD (fun _ => .of_fetched) rfl nofun
  | none =>
    cases isLimit with
    | true => exact .getD (fun _ => .of_expire) rfl nofun
    | false => exact .getD (fun _ => .of_drop) rfl nofun

theorem continues_fetch (s : Session ρ) (c : CallId) (r : Request) (patience : Option Duration) :
    s.service.Continues c (s.fetch c r patience).service := by
  cases hs : s.source with
  | none =>
    have unchanged : s.fetch c r patience = s := by rw [fetch, hs]
    rw [unchanged]
    exact .refl _ _
  | some src =>
    rw [fetch_of_source hs]
    dsimp only
    rw [service_adopt?]
    exact continues_told ..

theorem continues_perform (outside : s.service.phase s.nextCall = .outside) (v : ServiceId) (r : Request) (answer : ρ)
    (patience : Option Duration) :
    (s.service.made s.nextCall v r).Continues s.nextCall (s.perform v r answer patience).1.service := by
  have begun : (s.service.made s.nextCall v r).Continues s.nextCall (s.begun v r).service := by
    rw [service_begun outside]
    exact .begin _ _
  have fetched : (s.begun v r).service.Continues s.nextCall (s.fetchStage v r patience).service := by
    unfold fetchStage
    dsimp only
    split
    · exact continues_fetch ..
    · exact .refl _ _
  rw [perform_fst, service_adopt?]
  exact (begun.trans fetched).trans (.answer _ _ _)

/-- What the fetch of a call with request `r` comes to for the call, which waits no longer than its limit. -/
def raced (r : Request) (fetch : Option (Nat × Except CredentialError (Option HeaderValue))) :
    Option (Except CredentialError (Option HeaderValue)) :=
  match Grpc.timeout r.headers, fetch with
  | none, fetch => fetch.map (·.2)
  | some l, some (d, m) => some (if d ≤ l.ceilMillis then m else .error .deadline)
  | some _, none => some (.error .deadline)

/-- What is sent for a call with request `r`. -/
def carried (r : Request) : Option (Except CredentialError (Option HeaderValue)) → List (Request × Bool)
  | some (.ok h) => [(r.carry h, true)]
  | some (.error _) | none => []

/-- How a call ends, and what is sent for it. -/
structure EndsAs (t : Credentials.State ρ) (c : CallId) (r : Request) (answer : ρ)
    (m : Option (Except CredentialError (Option HeaderValue))) : Prop where
  result : t.result? c = m.map (.of answer)
  sent : t.sent c = carried r m

theorem EndsAs.unsent {t : Credentials.State ρ} {c : CallId} {answer : ρ}
    {m : Option (Except CredentialError (Option HeaderValue))} {e : CredentialError} (ends : EndsAs t c r answer m)
    (rejected : t.result? c = some (.rejected e)) : t.sent c = [] := by
  have result := ends.result.symm.trans rejected
  rw [ends.sent]
  obtain _ | _ | h := m
  · rfl
  · rfl
  · cases result

theorem StageEnds.endsAs {d : Nat} {m : Except CredentialError (Option HeaderValue)} (ends : s.StageEnds v r d m)
    (answer : ρ) : EndsAs (s.perform v r answer none).1.service s.nextCall r answer (some m) := by
  rw [perform_fst, service_adopt?]
  constructor
  · exact ends.passed.result?_answer answer
  · rw [State.sent_answer]
    cases m with
    | ok h => exact ends.passed.2.1
    | error e => exact ends.passed.2.1

theorem StageHangs.endsAs (hangs : s.StageHangs v r) (answer : ρ) :
    EndsAs (s.perform v r answer none).1.service s.nextCall r answer none := by
  constructor
  · have endless := hangs.result answer none
    rw [perform_snd] at endless
    split at endless
    · cases endless
    · assumption
  · rw [perform_fst, service_adopt?, State.sent_answer]
    exact hangs.unsent none

theorem Awaits.endsAs {fetch : Option (Nat × Except CredentialError (Option HeaderValue))} (awaits : s.Awaits v r fetch)
    (answer : ρ) : EndsAs (s.perform v r answer none).1.service s.nextCall r answer (raced r fetch) := by
  unfold raced
  obtain _ | ⟨d, m⟩ := fetch
  · cases limit : Grpc.timeout r.headers with
    | none => exact (awaits.2 limit).endsAs answer
    | some l => exact (awaits.1 l limit).endsAs answer
  · cases limit : Grpc.timeout r.headers with
    | none => exact (awaits.2 limit).endsAs answer
    | some l => exact (awaits.1 l limit).endsAs answer

/-- The session with a clone of its transport, for a call. -/
def cloned (s : Session ρ) : Session ρ := s.adopt (s.service.clone 0)

/-- The same, after the clone has been found ready. -/
def readied (s : Session ρ) : Session ρ := s.cloned.adopt (s.cloned.service.ready s.service.services)

theorem log_adopt {t : Credentials.State ρ} (same : t.log = s.service.log) : (s.adopt t).log = s.log := by
  have added : (s.adopt t).log = s.log ++ t.log.drop s.service.log.length := rfl
  rw [added, same, List.drop_length, List.append_nil]

theorem holds_cloned (s : Session ρ) : s.cloned.service.holds s.service.services = s.service.instances := if_pos rfl

theorem Sound.cloned (sound : s.Sound) : s.cloned.Sound where
  reachable := by
    obtain ⟨as, run⟩ := State.reachable_iff.1 sound.reachable
    exact sound.reachable.step (.clone 0 run.services_pos)
  outside := sound.outside
  hasSource := sound.hasSource
  calm := sound.calm

theorem Sound.readied (sound : s.Sound) : s.readied.Sound where
  reachable := sound.cloned.reachable.step (.ready s.service.services (Nat.lt_succ_self _))
  outside := sound.outside
  hasSource := sound.hasSource
  calm := sound.calm

/-- Between `s` and `t` no more has happened to the transport than that it was polled; no token was asked for, and nothing
logged. -/
structure Untouched (s t : Session ρ) (polled : List (Credentials.Event ρ)) : Prop where
  history : t.service.history = polled ++ s.service.history
  source : t.source = s.source
  now : t.now = s.now
  log : t.log = s.log
  nextCall : t.nextCall = s.nextCall

theorem untouched_cloned (s : Session ρ) : s.Untouched s.cloned [] := ⟨rfl, rfl, rfl, log_adopt rfl, rfl⟩

theorem untouched_readied (s : Session ρ) :
    s.Untouched s.readied [.ready s.service.services s.service.instances] where
  history := by
    have polled : s.readied.service.history =
        .ready s.service.services (s.cloned.service.holds s.service.services) :: s.service.history := rfl
    rw [polled, holds_cloned]
    rfl
  source := rfl
  now := rfl
  log := (log_adopt rfl).trans (log_adopt rfl)
  nextCall := rfl

/-- Between `s` and `t` a clone of the transport was found ready and at once called with `r`, on the instance that it held;
nothing else was called. -/
structure CallsOnce (s t : Session ρ) (r : Request) : Prop where
  nextCall : t.nextCall = s.nextCall + 1
  history : ∃ later, t.service.history = later ++ (.called s.nextCall s.service.services s.service.instances r ::
    .ready s.service.services s.service.instances :: s.service.history) ∧ ∀ e ∈ later, e.Follows s.nextCall

theorem Sound.callsOnce (sound : s.Sound) (whole : s.now.IsWhole) (r : Request) (answer : ρ) :
    s.CallsOnce (s.cloned.perform s.service.services r answer none).1 r where
  nextCall := by
    have stage := sound.cloned.follows_fetchStage whole (Nat.lt_succ_self s.service.services) r none
    rw [perform_fst, nextCall_adopt?]
    exact stage.nextCall
  history := by
    have continues := continues_perform (sound.cloned.outside _ (Nat.le_refl _)) s.service.services r answer none
    rw [State.Continues, State.made_history, holds_cloned] at continues
    exact continues

end

variable {s : Session Transported} {origin : Uri} {call : Call} {path : PathQuery} {answer : Transported}

/-- What is read of a call that ended like that. -/
def replied : Option (Credentials.Result Transported) → Except Status Reply
  | some (.answered (.ok reply)) => .ok reply
  | some (.answered (.error text)) => .error ⟨.unknown, text⟩
  | some (.rejected e) => .error e.status
  | none => .error ⟨.cancelled, ""⟩

theorem invoke_of_error {st : Status} (unformed : call.request origin = .error st) (s : Session Transported)
    (answer : Transported) : s.invoke origin call (.answers answer) = (s.readied, .error st, []) := by
  rw [invoke, unformed]
  rfl

theorem invoke_of_request {r : Request} (formed : call.request origin = .ok r) (s : Session Transported)
    (answer : Transported) : s.invoke origin call (.answers answer) =
      let t := (s.cloned.perform s.service.services r answer none).1
      (t, replied (t.service.result? s.nextCall), (t.service.sent s.nextCall).map (·.1)) := by
  have ending := s.cloned.perform_snd s.service.services r answer none
  have number : s.cloned.nextCall = s.nextCall := rfl
  rw [invoke, formed]
  dsimp only
  rw [← cloned]
  generalize s.cloned.perform s.service.services r answer none = made at ending ⊢
  obtain ⟨t, e⟩ := made
  rw [number] at ending ⊢
  dsimp only at ending ⊢
  subst ending
  obtain _ | ⟨⟨text⟩ | reply⟩ | e := t.service.result? s.nextCall <;> rfl

/-- A session stays sound when a call is made through a stub, whatever comes of it. -/
theorem Sound.invoke (sound : s.Sound) (whole : s.now.IsWhole) (origin : Uri) (call : Call) (inner : Inner Transported) :
    (s.invoke origin call inner).1.Sound ∧ (s.invoke origin call inner).1.now.IsWhole := by
  cases inner with
  | notReady reason => exact ⟨sound.cloned, whole⟩
  | answers answer =>
    cases formed : call.request origin with
    | error st =>
      rw [invoke_of_error formed]
      exact ⟨sound.readied, whole⟩
    | ok r =>
      rw [invoke_of_request formed]
      exact sound.cloned.perform whole (Nat.lt_succ_self s.service.services) r answer none

/-- The session after calls through stubs, each at the origin of its stub. -/
def after (s : Session Transported) (calls : List (Uri × Call × Inner Transported)) : Session Transported :=
  calls.foldl (fun s (origin, call, inner) => (s.invoke origin call inner).1) s

theorem Sound.after (sound : s.Sound) (whole : s.now.IsWhole) (calls : List (Uri × Call × Inner Transported)) :
    (s.after calls).Sound ∧ (s.after calls).now.IsWhole := by
  induction calls generalizing s with
  | nil => exact ⟨sound, whole⟩
  | cons made rest ih =>
    obtain ⟨origin, call, inner⟩ := made
    obtain ⟨sound', whole'⟩ := sound.invoke whole origin call inner
    exact ih sound' whole'

/-- A call fails with `st`, for a single message as well as for a stream. -/
structure FailsWith (s : Session Transported) (origin : Uri) (call : Call) (inner : Inner Transported) (st : Status) :
    Prop where
  unary : ∀ {μ : Type} (decode : Bytes → Except String μ), (s.unary origin call decode inner).2.1 = .error st
  serverStreaming : ∀ {μ : Type} (decode : Bytes → Except String μ),
    (s.serverStreaming origin call decode inner).2.1 = .error st

theorem failsWith_of_invoke {inner : Inner Transported} {st : Status} (failed : (s.invoke origin call inner).2.1 = .error st) :
    s.FailsWith origin call inner st where
  unary := fun decode => by
    have read : (s.unary origin call decode inner).2.1 = (s.invoke origin call inner).2.1.bind (·.unary decode) := rfl
    rw [read, failed]
    rfl
  serverStreaming := fun decode => by
    have read : (s.serverStreaming origin call decode inner).2.1 =
        (s.invoke origin call inner).2.1.bind (·.stream decode) := rfl
    rw [read, failed]
    rfl

theorem unary_of_invoke {inner : Inner Transported} {t : Session Transported} {reply : Except Status Reply}
    {sent : List Request} (invoked : s.invoke origin call inner = (t, reply, sent)) {μ : Type}
    (decode : Bytes → Except String μ) :
    (s.unary origin call decode inner).1 = t ∧ (s.unary origin call decode inner).2.2 = sent :=
  ⟨congrArg (·.1) invoked, congrArg (·.2.2) invoked⟩

theorem serverStreaming_of_invoke {inner : Inner Transported} {t : Session Transported} {reply : Except Status Reply}
    {sent : List Request} (invoked : s.invoke origin call inner = (t, reply, sent)) {μ : Type}
    (decode : Bytes → Except String μ) :
    (s.serverStreaming origin call decode inner).1 = t ∧ (s.serverStreaming origin call decode inner).2.2 = sent :=
  ⟨congrArg (·.1) invoked, congrArg (·.2.2) invoked⟩

/-- A call of either kind leaves the session `t` behind and hands the requests `sent` over. It has three stages: the
transport has to be ready, the method has to form a path, and the credentials have to come. -/
structure Staged (s : Session Transported) (origin : Uri) (call : Call) (inner : Inner Transported)
    (t : Session Transported) (sent : List Request) : Prop where
  unary : ∀ {μ : Type} (decode : Bytes → Except String μ),
    (s.unary origin call decode inner).1 = t ∧ (s.unary origin call decode inner).2.2 = sent
  serverStreaming : ∀ {μ : Type} (decode : Bytes → Except String μ),
    (s.serverStreaming origin call decode inner).1 = t ∧ (s.serverStreaming origin call decode inner).2.2 = sent
  notReady : ∀ reason, inner = .notReady reason →
    s.FailsWith origin call inner ⟨.unknown, "Service was not ready: " ++ reason⟩ ∧ sent = [] ∧ s.Untouched t []
  unformed : ∀ answer fault, inner = .answers answer →
    PathQuery.parse ("/" ++ (call.service ++ "/" ++ call.method)).toList = .error fault →
    s.FailsWith origin call inner ⟨.internal, "invalid method path: " ++ fault.message⟩ ∧ sent = [] ∧
      s.Untouched t [.ready s.service.services s.service.instances]
  /-- The call waits for the fetch of its credentials, and ends as that says. -/
  called : ∀ answer path, inner = .answers answer →
    PathQuery.parse ("/" ++ (call.service ++ "/" ++ call.method)).toList = .ok path →
    s.CallsOnce t (call.posted origin path) ∧ sent = (t.service.sent s.nextCall).map (·.1) ∧
      ∃ fetch, s.Fetches (call.posted origin path) fetch ∧
        EndsAs t.service s.nextCall (call.posted origin path) answer (raced (call.posted origin path) fetch)
  rejected : ∀ e, t.service.result? s.nextCall = some (.rejected e) → s.FailsWith origin call inner e.status ∧ sent = []

/-- A call whose transport is not called. -/
theorem staged_of_uncalled {inner : Inner Transported} {st : Status} {t : Session Transported}
    (invoked : s.invoke origin call inner = (t, .error st, [])) (unended : t.service.result? s.nextCall = none)
    (notReady : ∀ reason, inner = .notReady reason →
      st = ⟨.unknown, "Service was not ready: " ++ reason⟩ ∧ s.Untouched t [])
    (answers : ∀ answer, inner = .answers answer →
      call.path = .error st ∧ s.Untouched t [.ready s.service.services s.service.instances]) :
    s.Staged origin call inner t [] := by
  have fails : s.FailsWith origin call inner st := failsWith_of_invoke (congrArg (·.2.1) invoked)
  constructor
  · exact unary_of_invoke invoked
  · exact serverStreaming_of_invoke invoked
  · intro reason unready
    obtain ⟨cause, untouched⟩ := notReady reason unready
    rw [← cause]
    exact ⟨fails, rfl, untouched⟩
  · intro answer fault ready bad
    obtain ⟨unformed, untouched⟩ := answers answer ready
    rw [Call.path_of_error bad] at unformed
    cases unformed
    exact ⟨fails, rfl, untouched⟩
  · intro answer path ready good
    obtain ⟨unformed, -⟩ := answers answer ready
    rw [Call.path_of_ok good] at unformed
    cases unformed
  · intro e rejected
    rw [unended] at rejected
    cases rejected

/-- A call whose transport is called. -/
theorem Sound.staged_of_called (sound : s.Sound) (whole : s.now.IsWhole) (addressed : origin.IsOrigin)
    (formed : call.path = .ok path) (answer : Transported) : s.Staged origin call (.answers answer)
      (s.cloned.perform s.service.services (call.posted origin path) answer none).1
      (((s.cloned.perform s.service.services (call.posted origin path) answer none).1.service.sent s.nextCall).map (·.1)) := by
  have invoked := invoke_of_request (Call.request_of_path addressed formed) s answer
  obtain ⟨fetch, fetches, awaits⟩ := sound.cloned.exists_fetch whole s.service.services (call.posted origin path)
  have ends := awaits.endsAs answer
  have number : s.cloned.nextCall = s.nextCall := rfl
  constructor
  · exact unary_of_invoke invoked
  · exact serverStreaming_of_invoke invoked
  · intro reason unready
    cases unready
  · intro answer' fault ready bad
    rw [Call.path_of_error bad] at formed
    cases formed
  · intro answer' path' ready good
    cases ready
    rw [Call.path_of_ok good] at formed
    cases formed
    exact ⟨sound.callsOnce whole _ answer, rfl, fetch, fetches, ends⟩
  · intro e rejected
    have failed : (s.invoke origin call (.answers answer)).2.1 = .error e.status := by
      rw [invoked]
      dsimp only
      rw [rejected]
      rfl
    refine ⟨failsWith_of_invoke failed, ?_⟩
    rw [← number, ends.unsent rejected]
    rfl

/-- Whatever calls have been made before, the next one goes through its stages. -/
theorem stub_calls_in_stages (sound : s.Sound) (whole : s.now.IsWhole) (earlier : List (Uri × Call × Inner Transported))
    (addressed : origin.IsOrigin) (call : Call) (inner : Inner Transported) :
    ∃ t sent, (s.after earlier).Staged origin call inner t sent := by
  obtain ⟨sound, whole⟩ := sound.after whole earlier
  cases inner with
  | notReady reason =>
    refine ⟨_, _, staged_of_uncalled rfl sound.cloned.untouched.2 ?_ nofun⟩
    rintro _ ⟨⟩
    exact ⟨rfl, untouched_cloned _⟩
  | answers answer =>
    cases formed : call.path with
    | error st =>
      have unasked : call.request origin = .error st := Call.request_of_error formed
      have invoked := invoke_of_error unasked (s.after earlier) answer
      exact ⟨_, _, staged_of_uncalled invoked sound.readied.untouched.2 nofun fun _ _ => ⟨formed, untouched_readied _⟩⟩
    | ok path => exact ⟨_, _, sound.staged_of_called whole addressed formed answer⟩

/-- Credentials that need TLS refuse the second call of a client in the clear. -/
theorem stub_calls_in_stages_plaintext :
    let s : Session Transported := .start true (some (.fixed (.bearer "tok"))) ⟨0⟩
    let origin : Uri := ⟨some .http, some "localhost:8080", ⟨"", none⟩⟩
    let call (method : String) : Call := ⟨"zitadel.admin.v1.AdminService", method, [], [], none⟩
    let earlier : List (Uri × Call × Inner Transported) := [(origin, call "Healthz", .notReady "closed")]
    let inner : Inner Transported := .answers (.error "unreachable")
    s.Sound ∧ s.now.IsWhole ∧ origin.IsOrigin ∧
      ((s.after earlier).unary origin (call "ListViews") Except.ok inner).2.1 =
        .error ⟨.unauthenticated, "credentials require transport level security"⟩ ∧
      ∃ t sent, (s.after earlier).Staged origin (call "ListViews") inner t sent := by
  intro s origin call earlier inner
  have sound : s.Sound := sound_start true (by rintro _ ⟨⟩; trivial) ⟨0⟩
  have whole : s.now.IsWhole := Nat.dvd_zero _
  have written : "http://localhost:8080".toList =
      (webScheme false).toList ++ ("://".toList ++ "localhost:8080".toList) := by decide
  have parsed : Uri.parse "http://localhost:8080" = .ok origin := by decide
  have addressed : origin.IsOrigin := Uri.isOrigin_of_parse written (by decide) parsed
  refine ⟨sound, whole, addressed, ?_, stub_calls_in_stages sound whole earlier addressed _ inner⟩
  decide

end Simulation.Session

end IdentityClient
