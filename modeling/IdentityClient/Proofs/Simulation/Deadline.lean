import IdentityClient.Proofs.Simulation.Stage

/-!
# The limit of a call and its fetch

A call that states a limit waits for the fetch of its credentials no longer than that, in whole milliseconds, and a
fetch that ends at the limit is in time (`Session.fetch_races_limit`). Without a limit the call waits until the fetch
ends. What comes after the fetch has no limit.

How long the fetch takes is up to the source: it may have an answer at once, run an exchange, or wait for somebody else's.
A scripted source stands for any of them, as it takes any time and comes to any outcome.
-/

namespace IdentityClient

theorem Instant.advance_inj {t : Instant} {m n : Nat} (h : t.advance (.ofMillis m) = t.advance (.ofMillis n)) : m = n := by
  have nanos := congrArg Instant.nanos h
  simp only [advance, Duration.ofMillis, Duration.nanosPerMilli] at nanos
  omega

theorem Instant.advance_zero (t : Instant) : t.advance (.ofMillis 0) = t := by
  simp [advance, Duration.ofMillis]

namespace Simulation.Session

open Credentials

variable {ρ : Type} {s : Session ρ} {v : ServiceId} {r : Request}

/-- What the fetch for a call with request `r`, left to itself, comes to, and after how many milliseconds; none if it
goes on for good. -/
def Fetches (s : Session ρ) (r : Request) : Option (Nat × Except CredentialError (Option HeaderValue)) → Prop
  | some (d, m) => ∃ source, metadata s.service.credentials.requiresTls s.source s.now r.uri =
      (some m, source, s.now.advance (.ofMillis d))
  | none => (metadata s.service.credentials.requiresTls s.source s.now r.uri).1 = none

theorem Fetches.of_metadata {d : Nat} {m : Except CredentialError (Option HeaderValue)} {source : Option Source}
    (h : metadata s.service.credentials.requiresTls s.source s.now r.uri =
      (some m, source, s.now.advance (.ofMillis d))) : s.Fetches r (some (d, m)) := ⟨source, h⟩

theorem Fetches.unique {fetch fetch' : Option (Nat × Except CredentialError (Option HeaderValue))}
    (h : s.Fetches r fetch) (h' : s.Fetches r fetch') : fetch = fetch' := by
  rcases fetch with _ | ⟨d, m⟩ <;> rcases fetch' with _ | ⟨d', m'⟩
  · rfl
  · obtain ⟨source, h'⟩ := h'
    rw [Fetches, h'] at h
    cases h
  · obtain ⟨source, h⟩ := h
    rw [Fetches, h] at h'
    cases h'
  · obtain ⟨source, h⟩ := h
    obtain ⟨source', h'⟩ := h'
    obtain ⟨hm, -, hd⟩ : some m = some m' ∧ source = source' ∧
        s.now.advance (.ofMillis d) = s.now.advance (.ofMillis d') := by simpa using h.symm.trans h'
    cases hm
    rw [Instant.advance_inj hd]

/-- The fetch of the next call, to service `v`, is over after `d` milliseconds and has come to `m`, whatever happens
later and however long the inner service takes to answer. -/
structure StageEnds (s : Session ρ) (v : ServiceId) (r : Request) (d : Nat)
    (m : Except CredentialError (Option HeaderValue)) : Prop where
  now : (s.fetchStage v r none).now = s.now.advance (.ofMillis d)
  passed : (s.fetchStage v r none).service.Passed s.nextCall r m
  later : ∀ u, Relation.ReflTransGen Credentials.State.Step (s.fetchStage v r none).service u →
    u.sent s.nextCall = (s.fetchStage v r none).service.sent s.nextCall ∧
      ∀ e, u.result? s.nextCall = some (.rejected e) ↔ m = .error e
  result : ∀ answer, (s.perform v r answer none).2 = .ended (.of answer m)

/-- The next call, to service `v`, waits for as long as anybody is patient with it. -/
structure StageHangs (s : Session ρ) (v : ServiceId) (r : Request) : Prop where
  now : ∀ p, (s.fetchStage v r (some p)).now = s.now.advance (.ofMillis p.ceilMillis)
  unsent : ∀ patience, (s.fetchStage v r patience).service.sent s.nextCall = []
  result : ∀ answer patience, (s.perform v r answer patience).2 = .endless

theorem StageEnds.of_passed {d : Nat} {m : Except CredentialError (Option HeaderValue)}
    (now : (s.fetchStage v r none).now = s.now.advance (.ofMillis d))
    (passed : (s.fetchStage v r none).service.Passed s.nextCall r m) : s.StageEnds v r d m where
  now := now
  passed := passed
  later := fun u steps => by
    obtain ⟨sent, rejected⟩ := passed.past.later steps
    exact ⟨sent, fun e => (rejected e).trans (passed.rejected_iff e)⟩
  result := fun answer => by
    rw [perform_eq]
    dsimp only
    rw [service_adopt?, passed.result?_answer]

theorem bound_none (r : Request) (now : Instant) : bound r now none = Grpc.timeout r.headers := by
  unfold bound isLimit
  cases Grpc.timeout r.headers <;> rfl

theorem isLimit_none (r : Request) (now : Instant) : isLimit r now none = (Grpc.timeout r.headers).isSome := by
  unfold isLimit
  cases Grpc.timeout r.headers <;> rfl

section
variable {src : Source} {reply : Option (Duration × TokenOutcome)} {t : Instant}

theorem Sound.ends_of_told (sound : s.Sound) (passes : s.service.credentials.refuses r.uri = false)
    (hs : s.source = some src) (replies : src.Replies s.now reply) (v : ServiceId) {o : TokenOutcome} {d : Nat}
    (ending : awaited reply s.now (Grpc.timeout r.headers) = some ⟨some o, s.now.advance (.ofMillis d)⟩) :
    s.StageEnds v r d ((CallCredentials.ofOutcome o).map some) := by
  obtain ⟨now, service⟩ := sound.stage_of_source passes hs replies v none
  rw [bound_none, ending] at now service
  refine .of_passed now ?_
  rw [service]
  exact State.passed_fetched (s := s.service.asking s.nextCall v r) sound.untouched.1 sound.untouched.2
    (State.goto_phase_self ..) (State.made_isReady s.service s.nextCall v r) o

theorem Sound.ends_of_late (sound : s.Sound) (passes : s.service.credentials.refuses r.uri = false)
    (hs : s.source = some src) (replies : src.Replies s.now reply) (v : ServiceId) {l : Duration} {d : Nat}
    (limit : Grpc.timeout r.headers = some l)
    (ending : awaited reply s.now (some l) = some ⟨none, s.now.advance (.ofMillis d)⟩) :
    s.StageEnds v r d (.error .deadline) := by
  obtain ⟨now, service⟩ := sound.stage_of_source passes hs replies v none
  rw [bound_none, limit, ending] at now service
  refine .of_passed now ?_
  rw [service, isLimit_none, limit]
  exact State.passed_expire (s := s.service.asking s.nextCall v r) sound.untouched.1 (State.goto_phase_self ..) limit

theorem Sound.hangs (sound : s.Sound) (whole : s.now.IsWhole) (passes : s.service.credentials.refuses r.uri = false)
    (hs : s.source = some src) (replies : src.Replies s.now none) (v : ServiceId)
    (limit : Grpc.timeout r.headers = none) : s.StageHangs v r := by
  have unlimited (patience : Option Duration) :
      bound r s.now patience = patience ∧ isLimit r s.now patience = false := by
    simp [bound, isLimit, limit]
  have unanswered (patience : Option Duration) : (awaited none s.now patience).bind (·.outcome) = none := by
    cases patience <;> rfl
  have dropped (patience : Option Duration) : (s.fetchStage v r patience).service =
      ((s.service.asking s.nextCall v r).goto s.nextCall .done).note (.dropped s.nextCall) := by
    have asking : (s.service.asking s.nextCall v r).phase s.nextCall = .fetching (s.service.holds v) r :=
      State.goto_phase_self ..
    obtain ⟨-, service⟩ := sound.stage_of_source passes hs replies v patience
    rw [(unlimited patience).1, (unlimited patience).2, unanswered] at service
    rw [service, told, if_neg Bool.false_ne_true, State.drop, asking]
    rfl
  refine ⟨fun p => ?_, fun patience => ?_, fun answer patience => ?_⟩
  · obtain ⟨now, -⟩ := sound.stage_of_source passes hs replies v (some p)
    rw [(unlimited (some p)).1] at now
    exact now.trans (whole.after p)
  · rw [dropped]
    exact sound.untouched.1
  · have unanswerable : (((s.service.asking s.nextCall v r).goto s.nextCall .done).note (.dropped s.nextCall)).answer
        s.nextCall answer = none := by
      simp [State.answer, State.note]
    have unended : (((s.service.asking s.nextCall v r).goto s.nextCall .done).note (.dropped s.nextCall)).result?
        s.nextCall = none := sound.untouched.2
    rw [perform_eq]
    dsimp only
    rw [service_adopt?, dropped, unanswerable, Option.getD_none, unended]

end

/-- What becomes of the next call, to service `v`, which has a fetch like that. -/
def Awaits (s : Session ρ) (v : ServiceId) (r : Request) :
    Option (Nat × Except CredentialError (Option HeaderValue)) → Prop
  | some (d, m) =>
    (∀ l, Grpc.timeout r.headers = some l →
      s.StageEnds v r (min d l.ceilMillis) (if d ≤ l.ceilMillis then m else .error .deadline)) ∧
    (Grpc.timeout r.headers = none → s.StageEnds v r d m)
  | none =>
    (∀ l, Grpc.timeout r.headers = some l → s.StageEnds v r l.ceilMillis (.error .deadline)) ∧
    (Grpc.timeout r.headers = none → s.StageHangs v r)

/-- A call that does not ask its source takes no time. -/
theorem awaits_of_passed {m : Except CredentialError (Option HeaderValue)}
    (passed : (s.begun v r).service.Passed s.nextCall r m) : s.Awaits v r (some (0, m)) := by
  have ends : s.StageEnds v r 0 m := by
    refine .of_passed ?_ ?_
    · rw [fetchStage_of_passed passed, now_begun, Instant.advance_zero]
    · rwa [fetchStage_of_passed passed]
  refine ⟨fun l _ => ?_, fun _ => ends⟩
  rwa [Nat.zero_min, if_pos (Nat.zero_le _)]

/-- A call whose source has an answer after a while waits for it or for its limit. -/
theorem Sound.awaits_of_reply {src : Source} {d : Duration} {o : TokenOutcome} (sound : s.Sound) (whole : s.now.IsWhole)
    (passes : s.service.credentials.refuses r.uri = false) (hs : s.source = some src)
    (replies : src.Replies s.now (some (d, o))) (v : ServiceId) :
    s.Awaits v r (some (d.ceilMillis, (CallCredentials.ofOutcome o).map some)) := by
  refine ⟨fun l limit => ?_, fun limit => ?_⟩
  · by_cases first : d.ceilMillis ≤ l.ceilMillis
    · rw [Nat.min_eq_left first, if_pos first]
      refine sound.ends_of_told passes hs replies v ?_
      rw [limit, awaited_of_le ((whole.tick_le_iff d l).2 first), whole.after]
    · rw [Nat.min_eq_right (Nat.le_of_not_le first), if_neg first]
      refine sound.ends_of_late passes hs replies v limit ?_
      rw [awaited_of_lt (Nat.not_le.1 (mt (whole.tick_le_iff d l).1 first)), whole.after]
  · refine sound.ends_of_told passes hs replies v ?_
    rw [limit, awaited_some, whole.after]

/-- A call whose source has no answer waits for its limit. -/
theorem Sound.awaits_of_silence {src : Source} (sound : s.Sound) (whole : s.now.IsWhole)
    (passes : s.service.credentials.refuses r.uri = false) (hs : s.source = some src)
    (replies : src.Replies s.now none) (v : ServiceId) : s.Awaits v r none := by
  refine ⟨fun l limit => ?_, sound.hangs whole passes hs replies v⟩
  refine sound.ends_of_late passes hs replies v limit ?_
  rw [awaited_none, whole.after]

/-- The fetch of the next call comes to something or goes on for good, and the call awaits that. -/
theorem Sound.exists_fetch (sound : s.Sound) (whole : s.now.IsWhole) (v : ServiceId) (r : Request) :
    ∃ fetch, s.Fetches r fetch ∧ s.Awaits v r fetch := by
  have refuses (hasSource : Bool) : CallCredentials.refuses ⟨s.service.credentials.requiresTls, hasSource⟩ r.uri =
      s.service.credentials.refuses r.uri := rfl
  cases passes : s.service.credentials.refuses r.uri with
  | true =>
    have fetch : metadata s.service.credentials.requiresTls s.source s.now r.uri =
        (some (.error .insecureTransport), s.source, s.now.advance (.ofMillis 0)) := by
      rw [Instant.advance_zero]
      simp [metadata, refuses, passes]
    exact ⟨_, .of_metadata fetch, awaits_of_passed (sound.begun_of_refused passes v)⟩
  | false =>
    cases hs : s.source with
    | none =>
      have fetch : metadata s.service.credentials.requiresTls s.source s.now r.uri =
          (some (.ok none), none, s.now.advance (.ofMillis 0)) := by
        rw [Instant.advance_zero]
        simp [metadata, refuses, passes, hs]
      exact ⟨_, .of_metadata fetch, awaits_of_passed (sound.begun_of_no_source passes hs v)⟩
    | some src =>
      have fetch : metadata s.service.credentials.requiresTls s.source s.now r.uri = _ :=
        hs ▸ metadata_of_passes src ((refuses true).trans passes)
      obtain ⟨reply, replies⟩ := (sound.calm src hs).exists_reply whole
      rw [replies.outcome none, replies.at_ none] at fetch
      cases reply with
      | some x =>
        obtain ⟨d, o⟩ := x
        rw [awaited_some, whole.after] at fetch
        exact ⟨_, .of_metadata fetch, sound.awaits_of_reply whole passes hs replies v⟩
      | none =>
        have hangs : s.Fetches r none := by
          rw [Fetches, fetch]
          rfl
        exact ⟨none, hangs, sound.awaits_of_silence whole passes hs replies v⟩

/-- A call that is made at a whole millisecond waits for its fetch, but for no longer than its limit, rounded up to a
whole millisecond. A fetch that is over by then settles whether the call is rejected; after a longer one it is rejected
with the deadline. Without a limit the call waits until the fetch ends. -/
theorem fetch_races_limit (sound : s.Sound) (whole : s.now.IsWhole) (v : ServiceId) (r : Request) :
    (∃ fetch, s.Fetches r fetch) ∧
    (∀ d m, s.Fetches r (some (d, m)) →
      (∀ l, Grpc.timeout r.headers = some l →
        s.StageEnds v r (min d l.ceilMillis) (if d ≤ l.ceilMillis then m else .error .deadline)) ∧
      (Grpc.timeout r.headers = none → s.StageEnds v r d m)) ∧
    (s.Fetches r none →
      (∀ l, Grpc.timeout r.headers = some l → s.StageEnds v r l.ceilMillis (.error .deadline)) ∧
      (Grpc.timeout r.headers = none → s.StageHangs v r)) ∧
    CredentialError.deadline.status.code = .deadlineExceeded := by
  obtain ⟨fetch, fetches, awaits⟩ := sound.exists_fetch whole v r
  refine ⟨⟨fetch, fetches⟩, fun d m takes => ?_, fun hangs => ?_, rfl⟩
  · rwa [fetches.unique takes] at awaits
  · rwa [fetches.unique hangs] at awaits

/-- A limit of 99.001 milliseconds is enough for a fetch that takes 100, one of 99 is not. -/
theorem fetch_races_limit_rounded_up :
    let fetch := Timeline.start (.initial ⟨0⟩ ⟨0⟩) (.ofList [.token "tok" none (.ofMillis 100)])
    let s : Session Nat := .start true (some (.refreshing fetch)) ⟨0⟩
    let value : HeaderValue := ⟨Utf8.encode "Bearer tok", true⟩
    let uri : Uri := ⟨some .https, some "id.example.com", ⟨"/svc/Method", none⟩⟩
    let request (limit : String) : Request := ⟨"POST", uri, [("grpc-timeout", .ofString limit)], []⟩
    s.Sound ∧ s.now.IsWhole ∧
      s.StageEnds 0 (request "99001u") 100 (.ok (some value)) ∧
      s.StageEnds 0 (request "99m") 99 (.error .deadline) := by
  intro fetch s value uri request
  have calm : fetch.Calm := Timeline.calm_start (Refreshing.State.Reachable.initial _ _).orderly (fun _ => rfl) _
  have sound : s.Sound := sound_start true (by rintro _ ⟨⟩; exact calm) ⟨0⟩
  have whole : s.now.IsWhole := Nat.dvd_zero _
  have asked : (Source.ask (.refreshing fetch) ⟨0⟩ none).outcome = some (.token (.bearer "tok")) ∧
      (Source.ask (.refreshing fetch) ⟨0⟩ none).at_ = some ((Instant.mk 0).advance (.ofMillis 100)) := by
    decide +kernel
  have takes (limit : String) : s.Fetches (request limit) (some (100, .ok (some value))) := by
    have fetched : metadata true (some (.refreshing fetch)) ⟨0⟩ uri = _ := metadata_of_passes _ rfl
    rw [asked.1, asked.2] at fetched
    exact .of_metadata fetched
  refine ⟨sound, whole, ?_, ?_⟩
  · exact ((fetch_races_limit sound whole 0 (request "99001u")).2.1 100 _ (takes _)).1 ⟨99001000⟩ (by decide)
  · exact ((fetch_races_limit sound whole 0 (request "99m")).2.1 100 _ (takes _)).1 ⟨99000000⟩ (by decide)

end Simulation.Session

end IdentityClient
