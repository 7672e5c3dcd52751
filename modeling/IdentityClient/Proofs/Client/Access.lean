import IdentityClient.Client.Registry
import IdentityClient.Proofs.Slot.Alone
import Mathlib.Data.Finset.Card

/-!
# Asking a client for its stubs

The slots of a client stand side by side: an access works on the slot of its own service, and what the client says of
itself, in its log and when it is shown, is what its slots say (`Client.Sound`). So an access gives the stub that is
there, or constructs one (`Answered`), whatever has been asked before and whichever constructions have panicked.
-/

namespace IdentityClient

theorem ApiService.fullName_injective {v w : ApiService} (h : v.fullName = w.fullName) : v = w := by
  have table : ∀ v ∈ all, ∀ w ∈ all, v.fullName = w.fullName → v = w := by decide
  exact table v v.mem_all w w.mem_all h

/-- A thread asks for the stub of a service; a construction would panic or not. -/
structure Access where
  thread : Slot.Thread
  service : ApiService
  panics : Bool

namespace Client

variable {origin : Uri} {c : Client} {v w : ApiService} {s : Stub} {a : Access} {as : List Access}

theorem constructing_injective (h : constructing v = constructing w) : v = w := by
  have text : "constructing " ++ v.fullName ++ " client" = "constructing " ++ w.fullName ++ " client" :=
    congrArg LogRecord.text h
  refine ApiService.fullName_injective ?_
  simpa using text

def visit (c : Client) (a : Access) : Client × Option (Slot.Outcome Stub) := c.access a.thread a.service a.panics

/-- A client after some accesses, the latest first. -/
def after (origin : Uri) : List Access → Client
  | [] => .ofOrigin origin
  | a :: as => ((after origin as).visit a).1

/-- What has come of each access, the latest first. -/
def answers (origin : Uri) : List Access → List (ApiService × Option (Slot.Outcome Stub))
  | [] => []
  | a :: as => (a.service, ((after origin as).visit a).2) :: answers origin as

/-- The services whose stub has been given, the latest first. -/
def served (origin : Uri) (as : List Access) : List ApiService :=
  (answers origin as).filterMap fun
    | (v, some (.value _)) => some v
    | _ => none

/-- What a construction comes to that starts now. -/
def made (c : Client) (a : Access) : Slot.Outcome Stub :=
  if a.panics then .panicked else .value ⟨a.service, c.origin, c.started⟩

theorem visit_slots_self (c : Client) (a : Access) :
    (c.visit a).1.slots a.service = (c.slots a.service).ask a.thread (c.made a) :=
  setSlot_slots_self ..

theorem visit_slots_of_ne (c : Client) (a : Access) (h : w ≠ a.service) : (c.visit a).1.slots w = c.slots w :=
  c.access_slots_of_ne a.thread a.panics h

/-- What a client says of itself is what its slots say. -/
structure Sound (origin : Uri) (c : Client) : Prop where
  addressed : c.origin = origin
  resting : ∀ v, (c.slots v).Resting
  named : ∀ v, (c.slots v).service = v.fullName
  own : ∀ v s, c.stub? v = some s → s.service = v ∧ s.origin = origin
  logged : ∀ v, c.log.count (constructing v) = (c.slots v).constructions

/-- What an access comes to: the stub that is there, or what a construction comes to, which is then started. -/
inductive Answered (c : Client) (a : Access) (c' : Client) : Slot.Outcome Stub → Prop
  | found {s : Stub} : c.stub? a.service = some s → c'.stub? a.service = some s →
      (c'.slots a.service).constructions = (c.slots a.service).constructions → Answered c a c' (.value s)
  | constructed {s : Stub} : c.stub? a.service = none → a.panics = false → s.service = a.service →
      s.origin = c.origin → c'.stub? a.service = some s →
      (c'.slots a.service).constructions = (c.slots a.service).constructions + 1 → Answered c a c' (.value s)
  | panicked : c.stub? a.service = none → a.panics = true → c'.stub? a.service = none →
      (c'.slots a.service).stage = .empty →
      (c'.slots a.service).constructions = (c.slots a.service).constructions + 1 → Answered c a c' .panicked

namespace Sound

theorem ofOrigin (origin : Uri) : (Client.ofOrigin origin).Sound origin where
  addressed := rfl
  resting := fun v => .initial v.fullName
  named := fun _ => rfl
  own := by
    intro v s hs
    have unset : (Client.ofOrigin origin).stub? v = none := rfl
    cases unset.symm.trans hs
  logged := fun v => List.count_nil

theorem stub?_visit (h : c.Sound origin) (a : Access) :
    (c.visit a).1.stub? a.service = (c.stub? a.service).or (c.made a).value? := by
  rw [stub?, visit_slots_self]
  exact (h.resting a.service).value_ask ..

theorem constructions_visit (h : c.Sound origin) (a : Access) : ((c.visit a).1.slots a.service).constructions =
    (c.slots a.service).constructions + if (c.stub? a.service).isSome then 0 else 1 := by
  rw [visit_slots_self]
  exact (h.resting a.service).constructions_ask ..

theorem answered (h : c.Sound origin) (a : Access) :
    ∃ o, (c.visit a).2 = some o ∧ Answered c a (c.visit a).1 o := by
  have rest := h.resting a.service
  have stub := h.stub?_visit a
  have count := h.constructions_visit a
  refine ⟨_, rest.lastReturn?_ask a.thread (c.made a), ?_⟩
  cases hs : c.stub? a.service with
  | some s =>
    rw [hs] at stub count
    have value : (c.slots a.service).value = some s := hs
    rw [value]
    exact .found hs stub count
  | none =>
    rw [hs] at stub count
    have value : (c.slots a.service).value = none := hs
    rw [value]
    cases hp : a.panics with
    | true =>
      have panics : c.made a = .panicked := by rw [made, hp]; rfl
      rw [panics] at stub ⊢
      refine .panicked hs hp stub ?_ count
      rw [visit_slots_self, rest.ask_of_none value, panics]
      rfl
    | false =>
      have gives : c.made a = .value ⟨a.service, c.origin, c.started⟩ := by rw [made, hp]; rfl
      rw [gives] at stub ⊢
      exact .constructed hs hp rfl rfl stub count

theorem visit (h : c.Sound origin) (a : Access) : (c.visit a).1.Sound origin := by
  refine ⟨h.addressed, ?_, ?_, ?_, ?_⟩
  · intro v
    by_cases hv : v = a.service
    · rw [hv, visit_slots_self]
      exact (h.resting a.service).ask ..
    · rw [visit_slots_of_ne c a hv]
      exact h.resting v
  · intro v
    by_cases hv : v = a.service
    · rw [hv, visit_slots_self, (h.resting a.service).service_ask]
      exact h.named a.service
    · rw [visit_slots_of_ne c a hv]
      exact h.named v
  · intro v s hs
    by_cases hv : v = a.service
    · rw [hv] at hs ⊢
      obtain ⟨o, -, answer⟩ := h.answered a
      cases answer with
      | found before after =>
        cases hs.symm.trans after
        exact h.own a.service s before
      | constructed _ _ service addressed after =>
        cases hs.symm.trans after
        exact ⟨service, addressed.trans h.addressed⟩
      | panicked _ _ after => cases hs.symm.trans after
    · rw [stub?, visit_slots_of_ne c a hv] at hs
      exact h.own v s hs
  · intro v
    have log : (c.visit a).1.log = c.log ++ List.replicate (((c.visit a).1.slots a.service).constructions -
        (c.slots a.service).constructions) (constructing a.service) := by
      rw [visit_slots_self]
      rfl
    rw [log, List.count_append, h.logged v, List.count_replicate]
    by_cases hv : v = a.service
    · have more := h.constructions_visit a
      subst hv
      rw [if_pos (beq_self_eq_true _)]
      omega
    · have other : constructing a.service ≠ constructing v := fun heq => hv (constructing_injective heq).symm
      rw [visit_slots_of_ne c a hv, if_neg (by simpa using other), Nat.add_zero]

theorem after (origin : Uri) (as : List Access) : (after origin as).Sound origin := by
  induction as with
  | nil => exact .ofOrigin origin
  | cons a as ih => exact ih.visit a

end Sound

/-- The stub of a service is what every access to it has given that gave one. -/
theorem mem_answers (origin : Uri) (as : List Access) (v : ApiService) (s : Stub) :
    (v, some (.value s)) ∈ answers origin as ↔ (after origin as).stub? v = some s := by
  induction as with
  | nil => exact iff_of_false nofun nofun
  | cons a as ih =>
    -- Only the slot that is asked changes, and only from no stub to the one that is given.
    obtain ⟨o, given, answer⟩ := (Sound.after origin as).answered a
    rw [answers, given, List.mem_cons, ih, after]
    by_cases hv : v = a.service
    · subst hv
      cases answer with
      | found before now => simp [before, now, eq_comm]
      | constructed before _ _ _ now => simp [before, now, eq_comm]
      | panicked before _ now => simp [before, now]
    · have same : ((after origin as).visit a).1.stub? v = (after origin as).stub? v :=
        congrArg Slot.State.value (visit_slots_of_ne _ a hv)
      rw [same]
      simp [hv]

theorem mem_served (origin : Uri) (as : List Access) (v : ApiService) :
    v ∈ served origin as ↔ ((after origin as).stub? v).isSome := by
  simp only [served, List.mem_filterMap, Option.isSome_iff_exists, ← mem_answers]
  constructor
  · rintro ⟨⟨w, o⟩, mem, given⟩
    rcases o with _ | ⟨s⟩ | _ | _ <;> cases given
    exact ⟨s, mem⟩
  · rintro ⟨s, mem⟩
    exact ⟨_, mem, rfl⟩

/-- A client shows how many services have given a stub. -/
theorem initialized_after (origin : Uri) (as : List Access) :
    (after origin as).initialized = (served origin as).toFinset.card := by
  have same : (ApiService.all.filter fun v => ((after origin as).stub? v).isSome).toFinset =
      (served origin as).toFinset := by
    ext v
    simp [mem_served, ApiService.mem_all]
  rw [initialized, ← List.toFinset_card_of_nodup (ApiService.nodup_all.filter _), same]

/-- Each access gives the stub of its service that is there, or constructs one, and works on the slot of its service
alone. All that a service gives is one stub, of that service and to the client's origin. The client shows how many
services have given one, and its log tells each construction that was started, of which one at most has succeeded. -/
theorem accesses_in_step (origin : Uri) (as : List Access) :
    (∀ a, ∃ o, ((after origin as).visit a).2 = some o ∧
      Answered (after origin as) a ((after origin as).visit a).1 o) ∧
    (∀ a w, w ≠ a.service → ((after origin as).visit a).1.slots w = (after origin as).slots w) ∧
    (∀ v s, (v, some (.value s)) ∈ answers origin as → s.service = v ∧ s.origin = origin) ∧
    (∀ v w : ApiService, v.fullName = w.fullName → v = w) ∧
    (∀ v s s', (v, some (.value s)) ∈ answers origin as → (v, some (.value s')) ∈ answers origin as → s = s') ∧
    (after origin as).render = renderPartialRecord "Client"
      [("origin", origin.render), ("initialized_services", toString (served origin as).toFinset.card)] ∧
    ∀ v, ((after origin as).slots v).service = v.fullName ∧
      (after origin as).log.count (constructing v) = ((after origin as).slots v).constructions ∧
        Slot.successes ((after origin as).slots v).history ≤ 1 := by
  have sound := Sound.after origin as
  refine ⟨sound.answered, ?_, ?_, fun v w => ApiService.fullName_injective, ?_, ?_, ?_⟩
  · intro a w hw
    exact visit_slots_of_ne _ a hw
  · intro v s given
    exact sound.own v s ((mem_answers ..).1 given)
  · intro v s s' given given'
    exact Option.some.inj (((mem_answers ..).1 given).symm.trans ((mem_answers ..).1 given'))
  · rw [render, initialized_after, sound.addressed]
  · intro v
    exact ⟨sound.named v, sound.logged v, (sound.resting v).successes_le_one⟩

/-- A construction that panics is tried again by the next access. -/
example (origin : Uri) : answers origin [⟨1, .admin, false⟩, ⟨0, .admin, true⟩] =
    [(.admin, some (.value ⟨.admin, origin, 1⟩)), (.admin, some .panicked)] := rfl

end Client

end IdentityClient
