import IdentityClient.Proofs.Credentials.Reservation
import IdentityClient.Simulation.Stub

/-!
# Calls in virtual time

What a session makes of its service is a run in which calls are made to reserved services only (`ByContract`): each call,
through a stub or not, finds its service ready first. What is proved of such runs therefore holds in virtual time.
-/

namespace IdentityClient

namespace Credentials

variable {ρ : Type} {cr : CallCredentials} {t : State ρ} {a : Action ρ} {c : CallId} {v : ServiceId} {r : Request}

/-- Calls to reserved services have led to this state. -/
def ByContract (cr : CallCredentials) (t : State ρ) : Prop := ∃ as, Run cr as t ∧ keepsContract as = true

namespace ByContract

theorem initial (cr : CallCredentials) : ByContract (ρ := ρ) cr (.initial cr) := ⟨[], .initial, rfl⟩

theorem services_pos (k : ByContract cr t) : 0 < t.services := by
  obtain ⟨as, run, -⟩ := k
  exact run.services_pos

theorem step (k : ByContract cr t) {u : State ρ} (m : t.Move a u)
    (free : ∀ as, keepsContract (a :: as) = keepsContract as) : ByContract cr u := by
  obtain ⟨as, run, keeps⟩ := k
  exact ⟨a :: as, run.step m, (free as).trans keeps⟩

theorem getD {o : Option (State ρ)} (k : ByContract cr t) (m : ∀ u, o = some u → t.Move a u)
    (free : ∀ as, keepsContract (a :: as) = keepsContract as) : ByContract cr (o.getD t) := by
  cases o with
  | none => exact k
  | some u => exact k.step (m u rfl) free

theorem begin (k : ByContract cr t) (c : CallId) : ByContract cr ((t.begin c).getD t) :=
  k.getD (fun _ h => .of_begin h) fun _ => rfl

theorem fetched (k : ByContract cr t) (c : CallId) (o : TokenOutcome) : ByContract cr ((t.fetched c o).getD t) :=
  k.getD (fun _ h => .of_fetched h) fun _ => rfl

theorem expire (k : ByContract cr t) (c : CallId) : ByContract cr ((t.expire c).getD t) :=
  k.getD (fun _ h => .of_expire h) fun _ => rfl

theorem answer (k : ByContract cr t) (c : CallId) (x : ρ) : ByContract cr ((t.answer c x).getD t) :=
  k.getD (fun _ h => .of_answer h) fun _ => rfl

theorem drop (k : ByContract cr t) (c : CallId) : ByContract cr ((t.drop c).getD t) :=
  k.getD (fun _ h => .of_drop h) fun _ => rfl

/-- A service may be called as soon as it has been found ready. -/
theorem call (k : ByContract cr t) (hv : v < t.services) (c : CallId) (r : Request) :
    ByContract cr (((t.ready v).call c v r).getD (t.ready v)) := by
  obtain ⟨as, run, keeps⟩ := k
  have ready := run.step (.ready hv)
  cases h : (t.ready v).call c v r with
  | none => exact ⟨_, ready, keeps⟩
  | some u => exact ⟨_, ready.step (.of_call hv h), by simp [keepsContract, isReserved, keeps]⟩

end ByContract

end Credentials

namespace Simulation.Session

open Credentials

variable {ρ : Type} {cr : CallCredentials} {s : Session ρ} {v : ServiceId}

theorem service_adopt? (s : Session ρ) (o : Option (Credentials.State ρ)) :
    (s.adopt? o).service = o.getD s.service := by
  cases o <;> rfl

theorem byContract_fetch (k : ByContract cr s.service) (c : CallId) (r : Request) (patience : Option Duration) :
    ByContract cr (s.fetch c r patience).service := by
  unfold fetch
  split
  · exact k
  · dsimp only
    split
    · rw [service_adopt?]
      exact k.fetched c _
    · split <;> split <;> rw [service_adopt?]
      all_goals first | exact k.expire c | exact k.drop c

theorem byContract_perform (k : ByContract cr s.service) (hv : v < s.service.services) (r : Request) (answer : ρ)
    (patience : Option Duration) : ByContract cr (s.perform v r answer patience).1.service := by
  have answered {t : Session ρ} (k' : ByContract cr t.service) :
      ByContract cr (t.adopt? (t.service.answer s.nextCall answer)).service := by
    rw [service_adopt?]
    exact k'.answer s.nextCall answer
  have begun {t : Session ρ} (k' : ByContract cr t.service) :
      ByContract cr (t.adopt? (t.service.begin s.nextCall)).service := by
    rw [service_adopt?]
    exact k'.begin s.nextCall
  have called : ByContract cr ((({ s with nextCall := s.nextCall + 1 }.adopt (s.service.ready v)).adopt?
      ((s.service.ready v).call s.nextCall v r)).service) := by
    rw [service_adopt?]
    exact k.call hv s.nextCall r
  unfold perform
  dsimp only
  split <;> refine answered ?_ <;> split
  all_goals first | exact byContract_fetch (begun called) .. | exact begun called

theorem byContract_replace (k : ByContract cr s.service) : ByContract cr s.replace.service :=
  k.step (.replace k.services_pos) fun _ => rfl

/-- A call that is attempted on a session keeps to the contract. -/
theorem byContract_attempt (k : ByContract cr s.service) (r : Request) (inner : Inner ρ) (patience : Option Duration) :
    ByContract cr (s.attempt r inner patience).1.service := by
  cases inner with
  | notReady => exact k
  | answers answer => exact byContract_perform k k.services_pos r answer patience

/-- A call through a stub keeps to the contract: it is made to a clone that has been found ready. -/
theorem byContract_invoke {s : Session Transported} (k : ByContract cr s.service) (origin : Uri) (call : Grpc.Call)
    (inner : Inner Transported) : ByContract cr (s.invoke origin call inner).1.service := by
  have cloned : ByContract cr (s.service.clone 0) := k.step (.clone k.services_pos) fun _ => rfl
  unfold invoke
  dsimp only
  split
  · exact cloned
  · split
    · exact cloned.step (.ready (Nat.lt_succ_self _)) fun _ => rfl
    · exact byContract_perform (s := s.adopt (s.service.clone 0)) cloned (Nat.lt_succ_self _) ..

end Simulation.Session

end IdentityClient
