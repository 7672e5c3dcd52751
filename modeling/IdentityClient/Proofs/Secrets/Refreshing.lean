import IdentityClient.Proofs.Credentials.Bearer
import IdentityClient.Proofs.Refreshing.Run

/-!
# Refreshing sources without their secrets

With its secret blotted out, a token keeps its expiry and whether a header can carry it (`AccessToken.redact`). Blotting
out the secrets of a refreshing source commutes with all that can be done to it (`State.redact_perform`), so two sources
that are the same without their secrets stay so, log the same, and hand out tokens that are the same without theirs.
-/

namespace IdentityClient

namespace AccessToken

/-- Whether a header can carry the secret. -/
def fitsHeader (secret : String) : Bool := (bearer secret).bearerBytes.all HeaderValue.isAllowed

/-- What is left of a secret: whether a header can carry it. -/
def blot : Bool → String
  | true => ""
  | false => "\n"

theorem fitsHeader_blot (fits : Bool) : fitsHeader (blot fits) = fits := by
  cases fits <;> decide +kernel

def redact (t : AccessToken) : AccessToken := { t with secret := blot (fitsHeader t.secret) }

/-- Blotting out twice blots out no more. -/
theorem redact_redact (t : AccessToken) : t.redact.redact = t.redact := by
  simp only [redact, fitsHeader_blot]

theorem redact_eq_iff {t t' : AccessToken} : t.redact = t'.redact ↔
    t.expiresAt = t'.expiresAt ∧ (Printable t.bearerBytes ↔ Printable t'.bearerBytes) := by
  have injective {b b' : Bool} : blot b = blot b' ↔ b = b' :=
    ⟨fun h => by rw [← fitsHeader_blot b, h, fitsHeader_blot], congrArg blot⟩
  rw [redact, redact, mk.injEq, injective, and_comm, printable_iff, printable_iff]
  exact and_congr_right fun _ => Bool.eq_iff_iff

theorem redact_expiresIn (t : AccessToken) (now : Instant) (lifetime : Duration) :
    (t.expiresIn now lifetime).redact = t.redact.expiresIn now lifetime := rfl

@[simp] theorem expiresWithin_redact (t : AccessToken) (now : Instant) (margin : Duration) :
    t.redact.expiresWithin now margin = t.expiresWithin now margin := rfl

@[simp] theorem render_redact (t : AccessToken) (instant : Instant → String) :
    t.redact.render instant = t.render instant := rfl

end AccessToken

def TokenOutcome.redact : TokenOutcome → TokenOutcome
  | .token t => .token t.redact
  | .failed e => .failed e

namespace Refreshing

def Phase.redact : Phase → Phase
  | .ended o => .ended o.redact
  | .stored t => .stored t.redact
  | .cleared t => .cleared t.redact
  | .written o => .written o.redact
  | .unlocking o => .unlocking o.redact
  | .leaving o => .leaving o.redact
  | p => p

def Event.redact : Event → Event
  | .hit c t => .hit c t.redact
  | .ended c o => .ended c o.redact
  | .recorded c o => .recorded c o.redact
  | .returned c o => .returned c o.redact
  | e => e

def Act.redact : Act → Act
  | .finish c o => .finish c o.redact
  | a => a

/-- Blotting out leaves the phases of an exchange as they are. -/
theorem Phase.redact_eq_exchanging_iff {p : Phase} : p.redact = .exchanging ↔ p = .exchanging := by
  cases p <;> simp [redact]

namespace State

/-- The state with the secrets of all its tokens blotted out. -/
def redact (s : State) : State :=
  { s with
    cached := s.cached.map AccessToken.redact
    phase := fun c => (s.phase c).redact
    history := s.history.map Event.redact }

theorem redact_primed (now : Instant) (margin : Duration) (t : AccessToken) :
    (primed now margin t).redact = primed now margin t.redact := rfl

@[simp] theorem redact_phase (s : State) (c : CallId) : s.redact.phase c = (s.phase c).redact := rfl

@[simp] theorem redact_goto (s : State) (c : CallId) (p : Phase) : (s.goto c p).redact = s.redact.goto c p.redact := by
  simp only [redact, goto, State.mk.injEq, true_and, and_true]
  exact funext fun d => apply_ite Phase.redact (d = c) p (s.phase d)

@[simp] theorem redact_note (s : State) (e : Event) : (s.note e).redact = s.redact.note e.redact := rfl

@[simp] theorem redact_write (s : State) (r : LogRecord) : (s.write r).redact = s.redact.write r := rfl

@[simp] theorem redact_release (s : State) : s.release.redact = s.redact.release := by
  unfold release
  rw [show s.redact.queue = s.queue from rfl]
  cases s.queue <;> rfl

@[simp] theorem redact_leave (s : State) (c : CallId) : (s.leave c).redact = s.redact.leave c := by
  unfold leave
  rw [show s.redact.owner = s.owner from rfl]
  split
  · exact redact_release s
  · rfl

theorem fresh_redact (s : State) : s.redact.fresh = s.fresh.map AccessToken.redact := by
  unfold fresh redact
  cases s.cached <;> simp [Option.filter, apply_ite]

theorem redact_acquire (s : State) (c : CallId) (seen : Nat) : (s.acquire c seen).redact = s.redact.acquire c seen := by
  unfold acquire
  rw [show s.redact.owner = s.owner from rfl]
  cases s.owner with
  | none => exact redact_goto ..
  | some d =>
    dsimp only
    rw [redact_note, redact_goto]
    rfl

theorem redact_look {hit : AccessToken → Phase} {miss : Phase} (s : State) (c : CallId)
    (hits : ∀ t, (hit t).redact = hit t.redact) (misses : miss.redact = miss) :
    (s.look c hit miss).redact = s.redact.look c hit miss := by
  unfold look
  rw [fresh_redact]
  cases s.fresh with
  | none => rw [redact_goto, misses]; rfl
  | some t => rw [redact_note, redact_goto, hits]; rfl

theorem redact_next (s : State) (c : CallId) : s.redact.next c = (s.next c).map redact := by
  unfold next
  rw [redact_phase]
  cases s.phase c with
  | outside | exchanging | done => rfl
  | entered | rechecking => exact congrArg some (redact_look s c (fun _ => rfl) rfl).symm
  | asking seen => exact congrArg some (redact_acquire s c seen).symm
  | queued seen =>
    dsimp only [Phase.redact]
    rw [show s.redact.owner = s.owner from rfl, apply_ite (Option.map redact)]
    exact congrArg (ite _ · none) (congrArg some (redact_goto s c (.rechecking seen)).symm)
  | comparing seen =>
    refine congrArg some ((redact_goto ..).trans (congrArg _ ?_)).symm
    exact apply_ite Phase.redact ..
  | consulting =>
    dsimp only [Phase.redact]
    rw [show s.redact.lastFailure = s.lastFailure from rfl]
    cases s.lastFailure <;> simp [Phase.redact, TokenOutcome.redact, Event.redact]
  | ended o =>
    cases o with
    | token t => exact congrArg some (redact_goto { s with cached := some t } c (.stored t)).symm
    | failed e => exact congrArg some (redact_goto (s.write (failure e)) c (.warned e)).symm
  | stored t => exact congrArg some (redact_goto { s with lastFailure := none } c (.cleared t)).symm
  | warned e =>
    exact congrArg some (redact_goto { s with lastFailure := some e.message } c (.written (.failed e))).symm
  | written o =>
    exact congrArg (fun t : State => some (t.note (.recorded c o.redact)))
      (redact_goto { s with attempts := s.attempts + 1 } c (.unlocking o)).symm
  | missed =>
    exact congrArg (fun t : State => some (t.note (.counted c s.attempts)))
      (redact_goto s c (.asking s.attempts)).symm
  | starting | cleared | unlocking | leaving => simp [Phase.redact, Event.redact, TokenOutcome.redact]

theorem redact_act? (s : State) (a : Act) : s.redact.act? a.redact = (s.act? a).map redact := by
  cases a with
  | call c =>
    simp only [act?, Act.redact, call, redact_phase]
    cases s.phase c <;> simp [Phase.redact, Event.redact]
  | next c => exact redact_next s c
  | finish c o =>
    simp only [act?, Act.redact, finish, redact_phase]
    cases s.phase c <;> simp [Phase.redact, Event.redact]
  | drop c =>
    simp only [act?, Act.redact, drop, redact_phase]
    cases s.phase c <;> simp [Phase.redact, Event.redact]
  | elapse d => rfl

theorem redact_perform (s : State) (a : Act) : (s.perform a).redact = s.redact.perform a.redact := by
  unfold perform
  rw [redact_act?]
  cases s.act? a <;> rfl

theorem outcome?_redact (s : State) (c : CallId) : s.redact.outcome? c = (s.outcome? c).map TokenOutcome.redact := by
  unfold outcome?
  rw [show s.redact.history = s.history.map Event.redact from rfl, List.findSome?_map, List.map_findSome?]
  congr 1
  funext e
  cases e <;> simp [Event.redact, apply_ite]

theorem log_eq_of_redact {s s' : State} (same : s.redact = s'.redact) : s.log = s'.log := by
  change s.redact.log = s'.redact.log
  rw [same]

theorem render_redact (s : State) (exchange : String) : s.redact.render exchange = s.render exchange := by
  simp [render, redact]

end State

end Refreshing

end IdentityClient
