import IdentityClient.Proofs.Credentials.Past
import IdentityClient.Proofs.Credentials.Scheduled
import IdentityClient.Proofs.Simulation.Asked

/-!
# The stages of a call in virtual time

A session makes its next call to a service that was found ready (`begun`), waits for the fetch of the call's credentials
(`fetchStage`) and lets the inner service answer (`perform_eq`). A session is sound when it starts, and stays so with
every call (`Sound.perform`).
-/

namespace IdentityClient

namespace Credentials.State

variable {ρ : Type} {s t u : State ρ} {c : CallId} {v : ServiceId} {r : Request}

/-- Call `c` has been made to service `v`, which was found ready. -/
def made (s : State ρ) (c : CallId) (v : ServiceId) (r : Request) : State ρ :=
  (((s.ready v).refresh v).goto c (.created (s.holds v) r)).note (.called c v (s.holds v) r)

@[simp] theorem made_phase (s : State ρ) (c : CallId) (v : ServiceId) (r : Request) :
    (s.made c v r).phase c = .created (s.holds v) r := goto_phase_self ..

@[simp] theorem made_credentials (s : State ρ) (c : CallId) (v : ServiceId) (r : Request) :
    (s.made c v r).credentials = s.credentials := rfl

theorem made_isReady (s : State ρ) (c : CallId) (v : ServiceId) (r : Request) :
    (s.made c v r).isReady (s.holds v) = true := if_pos rfl

/-- Call `c` has been made to service `v`, and asks the token source. -/
def asking (s : State ρ) (c : CallId) (v : ServiceId) (r : Request) : State ρ :=
  ((s.made c v r).goto c (.fetching (s.holds v) r)).note (.asked c)

/-- What has been done about call `c` and no other, or about none, has led from `s` to `t`. -/
structure Leads (s : State ρ) (c : CallId) (t : State ρ) : Prop where
  reachable : ∀ cr, Reachable cr s → Reachable cr t
  credentials : t.credentials = s.credentials
  others : ∀ d, d ≠ c → t.phase d = s.phase d

namespace Leads

theorem refl (s : State ρ) (c : CallId) : s.Leads c s := ⟨fun _ h => h, rfl, fun _ _ => rfl⟩

theorem trans (h : s.Leads c t) (h' : t.Leads c u) : s.Leads c u :=
  ⟨fun cr k => h'.reachable cr (h.reachable cr k), h'.credentials.trans h.credentials,
    fun d hd => (h'.others d hd).trans (h.others d hd)⟩

theorem of_move {a : Action ρ} (m : s.Move a t) (about : ∀ d, a.call? = some d → d = c) : s.Leads c t where
  reachable := fun _ h => h.step m.step
  credentials := m.credentials
  others := fun d hd => m.phase_of_ne fun h => hd (about d h)

theorem getD {o : Option (State ρ)} {a : Action ρ} (m : ∀ t, o = some t → s.Move a t)
    (about : ∀ d, a.call? = some d → d = c) : s.Leads c (o.getD s) := by
  cases o with
  | none => exact .refl s c
  | some t => exact .of_move (m t rfl) about

theorem made (hv : v < s.services) (outside : s.phase c = .outside) (r : Request) : s.Leads c (s.made c v r) := by
  have called : (s.ready v).Move (.call c v r) (s.made c v r) := .call hv outside
  exact (Leads.of_move (.ready hv) nofun).trans (.of_move called fun _ h => (Option.some.inj h).symm)

theorem begin (s : State ρ) (c : CallId) : s.Leads c ((s.begin c).getD s) :=
  .getD (fun _ => .of_begin) fun _ h => (Option.some.inj h).symm

theorem answer (s : State ρ) (c : CallId) (x : ρ) : s.Leads c ((s.answer c x).getD s) :=
  .getD (fun _ => .of_answer) fun _ h => (Option.some.inj h).symm

end Leads

theorem call_ready (outside : s.phase c = .outside) (v : ServiceId) (r : Request) :
    (s.ready v).call c v r = some (s.made c v r) := by
  have before : (s.ready v).phase c = .outside := outside
  rw [call, before]
  rfl

end Credentials.State

namespace Simulation.Session

open Credentials

variable {ρ : Type} {s : Session ρ} {v : ServiceId} {r : Request}

/-- The next call has been made to service `v` and has got under way. -/
def begun (s : Session ρ) (v : ServiceId) (r : Request) : Session ρ :=
  let c := s.nextCall
  let s := { s with nextCall := c + 1 }.adopt (s.service.ready v)
  let s := s.adopt? (s.service.call c v r)
  s.adopt? (s.service.begin c)

/-- The next call has been made to service `v`, and its fetch is over or was given up. -/
def fetchStage (s : Session ρ) (v : ServiceId) (r : Request) (patience : Option Duration) : Session ρ :=
  let c := s.nextCall
  let s := s.begun v r
  match s.service.phase c with
  | .fetching _ r => s.fetch c r patience
  | _ => s

theorem perform_eq (s : Session ρ) (v : ServiceId) (r : Request) (answer : ρ) (patience : Option Duration) :
    s.perform v r answer patience =
      let t := (s.fetchStage v r patience).adopt? ((s.fetchStage v r patience).service.answer s.nextCall answer)
      match t.service.result? s.nextCall with
      | some result => (t, .ended result)
      | none => (t, .endless) := by
  -- Matches that were written in two places are two functions, which agree once they are unfolded.
  with_unfolding_all rfl

theorem perform_fst (s : Session ρ) (v : ServiceId) (r : Request) (answer : ρ) (patience : Option Duration) :
    (s.perform v r answer patience).1 =
      (s.fetchStage v r patience).adopt? ((s.fetchStage v r patience).service.answer s.nextCall answer) := by
  rw [perform_eq]
  dsimp only
  split <;> rfl

theorem perform_snd (s : Session ρ) (v : ServiceId) (r : Request) (answer : ρ) (patience : Option Duration) :
    (s.perform v r answer patience).2 =
      match (s.perform v r answer patience).1.service.result? s.nextCall with
      | some result => .ended result
      | none => .endless := by
  rw [perform_fst, perform_eq]
  dsimp only
  generalize ((s.fetchStage v r patience).adopt? _).service.result? s.nextCall = result
  cases result <;> rfl

section
variable (s : Session ρ) (o : Option (Credentials.State ρ))

theorem source_adopt? : (s.adopt? o).source = s.source := by cases o <;> rfl

theorem now_adopt? : (s.adopt? o).now = s.now := by cases o <;> rfl

theorem nextCall_adopt? : (s.adopt? o).nextCall = s.nextCall := by cases o <;> rfl

end

theorem service_begun (outside : s.service.phase s.nextCall = .outside) (v : ServiceId) (r : Request) :
    (s.begun v r).service =
      ((s.service.made s.nextCall v r).begin s.nextCall).getD (s.service.made s.nextCall v r) := by
  have called : (s.service.ready v).call s.nextCall v r = some (s.service.made s.nextCall v r) :=
    State.call_ready outside v r
  rw [begun, service_adopt?, service_adopt?]
  change (((((s.service.ready v).call s.nextCall v r).getD (s.service.ready v)).begin s.nextCall).getD
    (((s.service.ready v).call s.nextCall v r).getD (s.service.ready v))) = _
  rw [called]
  rfl

/-- What is known of a session between its calls: calls are numbered from `nextCall`, and nobody else waits for its
source. -/
structure Sound (s : Session ρ) : Prop where
  reachable : Credentials.State.Reachable s.service.credentials s.service
  outside : ∀ c, s.nextCall ≤ c → s.service.phase c = .outside
  hasSource : s.service.credentials.hasSource = s.source.isSome
  calm : ∀ src, s.source = some src → src.Calm

theorem sound_start (requiresTls : Bool) {source : Option Source} (calm : ∀ src, source = some src → src.Calm)
    (now : Instant) : (start (ρ := ρ) requiresTls source now).Sound :=
  ⟨.initial, fun _ _ => rfl, rfl, calm⟩

/-- Whether the limit of a call is up before its caller's patience. -/
def isLimit (r : Request) (now : Instant) (patience : Option Duration) : Bool :=
  match Grpc.timeout r.headers, patience with
  | some l, some p => (now.advance l).tick ≤ (now.advance p).tick
  | some _, none => true
  | none, _ => false

/-- How long the source is asked for a token at most. -/
def bound (r : Request) (now : Instant) (patience : Option Duration) : Option Duration :=
  if isLimit r now patience then Grpc.timeout r.headers else patience

/-- What becomes of the service when the source has been asked for call `c`. -/
def told (t : Credentials.State ρ) (c : CallId) (isLimit : Bool) : Option TokenOutcome → Option (Credentials.State ρ)
  | some o => t.fetched c o
  | none => if isLimit then t.expire c else t.drop c

theorem fetch_of_source {src : Source} (hs : s.source = some src) (c : CallId) (r : Request)
    (patience : Option Duration) : s.fetch c r patience =
      let asked := src.ask s.now (bound r s.now patience)
      { s with
        source := some asked.source
        now := asked.at_.getD s.now
        log := s.log ++ asked.log }.adopt? (told s.service c (isLimit r s.now patience) asked.outcome) := by
  have unfolded : s.fetch c r patience =
      let asked := src.ask s.now (bound r s.now patience)
      let s' := { s with
        source := some asked.source
        now := asked.at_.getD s.now
        log := s.log ++ asked.log }
      match asked.outcome with
      | some o => s'.adopt? (s'.service.fetched c o)
      | none => if isLimit r s.now patience then s'.adopt? (s'.service.expire c) else s'.adopt? (s'.service.drop c) := by
    rw [fetch, hs]
    with_unfolding_all rfl
  rw [unfolded]
  dsimp only
  cases (src.ask s.now (bound r s.now patience)).outcome with
  | some o => rfl
  | none => cases isLimit r s.now patience <;> rfl

theorem fetchStage_of_fetching {i : InstanceId} {r' : Request}
    (hp : (s.begun v r).service.phase s.nextCall = .fetching i r') (patience : Option Duration) :
    s.fetchStage v r patience = (s.begun v r).fetch s.nextCall r' patience := by
  rw [fetchStage, hp]

theorem fetchStage_of_passed {m : Except CredentialError (Option HeaderValue)}
    (passed : (s.begun v r).service.Passed s.nextCall r m) (patience : Option Duration) :
    s.fetchStage v r patience = s.begun v r := by
  rw [fetchStage]
  cases m with
  | ok =>
    obtain ⟨⟨i, hp⟩, -⟩ := passed
    rw [hp]
  | error => rw [passed.1]

theorem now_begun (s : Session ρ) (v : ServiceId) (r : Request) : (s.begun v r).now = s.now := by
  rw [begun, now_adopt?, now_adopt?]
  rfl

theorem source_begun (s : Session ρ) (v : ServiceId) (r : Request) : (s.begun v r).source = s.source := by
  rw [begun, source_adopt?, source_adopt?]
  rfl

namespace Sound

variable {src : Source}

/-- Nothing has happened to the next call yet. -/
theorem untouched (sound : s.Sound) : s.service.sent s.nextCall = [] ∧ s.service.result? s.nextCall = none := by
  obtain ⟨as, run⟩ := Credentials.State.reachable_iff.1 sound.reachable
  exact run.untouched (sound.outside _ (Nat.le_refl _))

theorem begun_of_refused (sound : s.Sound) (refused : s.service.credentials.refuses r.uri = true) (v : ServiceId) :
    (s.begun v r).service.Passed s.nextCall r (.error .insecureTransport) := by
  rw [service_begun (sound.outside _ (Nat.le_refl _)), State.begin_of_refused (State.made_phase ..) refused]
  exact State.passed_reject (s := s.service.made s.nextCall v r) sound.untouched.1 r .insecureTransport

theorem begun_of_no_source (sound : s.Sound) (passes : s.service.credentials.refuses r.uri = false)
    (hs : s.source = none) (v : ServiceId) : (s.begun v r).service.Passed s.nextCall r (.ok none) := by
  have hasSource : s.service.credentials.hasSource = false := by rw [sound.hasSource, hs]; rfl
  have forwarded : (s.service.made s.nextCall v r).begin s.nextCall =
      some ((s.service.made s.nextCall v r).forward s.nextCall (s.service.holds v) r) := by
    simp [State.begin, passes, hasSource]
  rw [service_begun (sound.outside _ (Nat.le_refl _)), forwarded]
  exact State.passed_forward (s := s.service.made s.nextCall v r) sound.untouched.1 sound.untouched.2
    (State.made_isReady ..) r none

theorem begun_of_source (sound : s.Sound) (passes : s.service.credentials.refuses r.uri = false)
    (hs : s.source = some src) (v : ServiceId) : (s.begun v r).service = s.service.asking s.nextCall v r := by
  have hasSource : s.service.credentials.hasSource = true := by rw [sound.hasSource, hs]; rfl
  have asked : (s.service.made s.nextCall v r).begin s.nextCall = some (s.service.asking s.nextCall v r) := by
    simp [State.begin, passes, hasSource, State.asking]
  rw [service_begun (sound.outside _ (Nat.le_refl _)), asked]
  rfl

/-- The source answers as `reply` says, or is not waited for any longer. -/
theorem stage_of_source (sound : s.Sound) (passes : s.service.credentials.refuses r.uri = false)
    (hs : s.source = some src) {reply : Option (Duration × TokenOutcome)} (replies : src.Replies s.now reply)
    (v : ServiceId) (patience : Option Duration) :
    let asking := s.service.asking s.nextCall v r
    let ending := awaited reply s.now (bound r s.now patience)
    (s.fetchStage v r patience).now = (ending.map (·.at_)).getD s.now ∧
      (s.fetchStage v r patience).service =
        (told asking s.nextCall (isLimit r s.now patience) (ending.bind (·.outcome))).getD asking := by
  intro asking ending
  have begun : (s.begun v r).service = asking := sound.begun_of_source passes hs v
  have hp : (s.begun v r).service.phase s.nextCall = .fetching (s.service.holds v) r := by
    rw [begun]
    exact State.goto_phase_self ..
  have source : (s.begun v r).source = some src := (s.source_begun v r).trans hs
  rw [fetchStage_of_fetching hp, fetch_of_source source, now_begun, begun]
  dsimp only
  rw [now_adopt?, service_adopt?, replies.outcome, replies.at_]
  exact ⟨rfl, rfl⟩

end Sound

theorem leads_told (t : Credentials.State ρ) (c : CallId) (isLimit : Bool) (o : Option TokenOutcome) :
    t.Leads c ((told t c isLimit o).getD t) := by
  cases o with
  | some o => exact .getD (fun _ => .of_fetched) fun _ h => (Option.some.inj h).symm
  | none =>
    cases isLimit with
    | true => exact .getD (fun _ => .of_expire) fun _ h => (Option.some.inj h).symm
    | false => exact .getD (fun _ => .of_drop) fun _ h => (Option.some.inj h).symm

/-- What has been done about the next call of `s`, and about no other, has led to `t`. -/
structure Follows (s t : Session ρ) : Prop where
  leads : s.service.Leads s.nextCall t.service
  nextCall : t.nextCall = s.nextCall + 1
  source : t.source.isSome = s.source.isSome
  calm : ∀ src, t.source = some src → src.Calm
  whole : t.now.IsWhole

namespace Follows

variable {t : Session ρ}

theorem sound (f : s.Follows t) (sound : s.Sound) : t.Sound where
  reachable := f.leads.credentials ▸ f.leads.reachable _ sound.reachable
  outside := fun c hc => by
    rw [f.nextCall] at hc
    rw [f.leads.others c (Nat.ne_of_gt hc)]
    exact sound.outside c (Nat.le_of_lt hc)
  hasSource := by rw [f.leads.credentials, f.source, sound.hasSource]
  calm := f.calm

theorem adopt? (f : s.Follows t) {o : Option (Credentials.State ρ)}
    (leads : t.service.Leads s.nextCall (o.getD t.service)) : s.Follows (t.adopt? o) where
  leads := by
    rw [service_adopt?]
    exact f.leads.trans leads
  nextCall := (nextCall_adopt? t o).trans f.nextCall
  source := by rw [source_adopt?, f.source]
  calm := by
    rw [source_adopt?]
    exact f.calm
  whole := by
    rw [now_adopt?]
    exact f.whole

theorem fetch (f : s.Follows t) (r : Request) (patience : Option Duration) :
    s.Follows (t.fetch s.nextCall r patience) := by
  cases hs : t.source with
  | none =>
    have unchanged : t.fetch s.nextCall r patience = t := by rw [Session.fetch, hs]
    rwa [unchanged]
  | some src =>
    obtain ⟨reply, replies⟩ := (f.calm src hs).exists_reply f.whole
    have whole : ((src.ask t.now (bound r t.now patience)).at_.getD t.now).IsWhole := by
      rw [replies.at_]
      cases ending : awaited reply t.now (bound r t.now patience) with
      | none => exact f.whole
      | some e => exact whole_of_awaited f.whole ending
    let asked := src.ask t.now (bound r t.now patience)
    have asks : s.Follows { t with
        source := some asked.source, now := asked.at_.getD t.now, log := t.log ++ asked.log } :=
      ⟨f.leads, f.nextCall, by rw [← f.source, hs]; rfl, fun _ h => by cases h; exact replies.calm _, whole⟩
    rw [fetch_of_source hs]
    exact asks.adopt? (leads_told ..)

end Follows

namespace Sound

theorem follows_begun (sound : s.Sound) (whole : s.now.IsWhole) (hv : v < s.service.services) (r : Request) :
    s.Follows (s.begun v r) where
  leads := by
    have outside := sound.outside _ (Nat.le_refl _)
    rw [service_begun outside]
    exact (State.Leads.made hv outside r).trans (.begin _ _)
  nextCall := by
    rw [begun, nextCall_adopt?, nextCall_adopt?]
    rfl
  source := by rw [source_begun]
  calm := by
    rw [source_begun]
    exact sound.calm
  whole := by rwa [now_begun]

theorem follows_fetchStage (sound : s.Sound) (whole : s.now.IsWhole) (hv : v < s.service.services) (r : Request)
    (patience : Option Duration) : s.Follows (s.fetchStage v r patience) := by
  have begun := sound.follows_begun whole hv r
  unfold fetchStage
  dsimp only
  split
  · exact begun.fetch _ patience
  · exact begun

/-- A session stays sound when its next call is made, and its clock moves by whole milliseconds. -/
theorem perform (sound : s.Sound) (whole : s.now.IsWhole) (hv : v < s.service.services) (r : Request) (answer : ρ)
    (patience : Option Duration) :
    (s.perform v r answer patience).1.Sound ∧ (s.perform v r answer patience).1.now.IsWhole := by
  have stage := sound.follows_fetchStage whole hv r patience
  have answered := stage.adopt? (State.Leads.answer (s.fetchStage v r patience).service s.nextCall answer)
  rw [perform_eq]
  dsimp only
  split <;> exact ⟨answered.sound sound, answered.whole⟩

end Sound

end Simulation.Session

end IdentityClient
