import IdentityClient.Proofs.Slot.History
import IdentityClient.Slot.Run

/-!
# A slot that is asked by one thread at a time

Between two calls a slot is at rest: no thread is in a call (`State.Resting`). What a call makes of it is then known in
full. It finds the value and constructs nothing (`Resting.ask_of_some`), or runs the constructor, keeps its value if it
gives one, and leaves the slot empty otherwise (`Resting.ask_of_none`).
-/

namespace IdentityClient.Slot

/-- How many constructions have given a value. -/
def successes {α : Type} (h : List (Event α)) : Nat := (endings h).countP fun x => x.2.value?.isSome

theorem successes_le_one {α : Type} {h : List (Event α)} (tail : ∀ t v, (t, .value v) ∉ (endings h).tail) :
    successes h ≤ 1 := by
  rw [successes]
  cases he : endings h with
  | nil => exact Nat.zero_le 1
  | cons x l =>
    have earlier : (l.countP fun x => x.2.value?.isSome) = 0 := by
      refine List.countP_eq_zero.2 fun y hy hs => ?_
      obtain ⟨v, hv⟩ := Option.isSome_iff_exists.1 hs
      refine tail y.1 v ?_
      rw [he, ← Outcome.value?_eq_some.1 hv]
      exact hy
    rw [List.countP_cons, earlier]
    split <;> simp

namespace State

variable {α : Type} {s s' : State α} {t : Thread} {p : Phase α} {c o : Outcome α} {v : α} {n : Nat}
  {stop : Phase α → Bool}

theorem runUntil_next (going : stop (s.phase t) = false) (h : s.next t c = some s') :
    runUntil stop t c (n + 1) s = runUntil stop t c n s' := by
  rw [runUntil, going, h]
  rfl

theorem runUntil_of_outside (h : s.phase t = .outside) : runUntil stop t c n s = s := by
  cases n with
  | zero => rfl
  | succ n =>
    rw [runUntil]
    split
    · rfl
    · simp [next, h]

/-- Thread `t` is in phase `p`, and nobody else is in a call. -/
def alone (t : Thread) (p : Phase α) : Thread → Phase α := fun u => if u = t then p else .outside

@[simp] theorem alone_self (t : Thread) (p : Phase α) : alone t p t = p := if_pos rfl

theorem alone_outside (t : Thread) : alone t .outside = fun _ => (.outside : Phase α) := by
  funext u
  exact ite_self _

theorem goto_alone (h : s.phase = alone t p) (q : Phase α) : s.goto t q = { s with phase := alone t q } := by
  have same : (fun u => if u = t then q else s.phase u) = alone t q := by
    funext u
    rw [h, alone, alone]
    split <;> rfl
  rw [goto, same]

/-! What a thread does next that is alone in a call. -/

theorem acquire_of_none {q refused : Phase α} (ho : s.owner = none) (hp : s.poisoned = false) :
    s.acquire t q refused = some ({ s with owner := some t }.goto t q) := by
  rw [acquire, ho, hp]
  rfl

theorem next_hit (h : s.phase = alone t .entered) (hv : s.value = some v) :
    s.next t c = some { s with phase := alone t (.leaving (.value v)) } := by
  rw [← goto_alone h, next, h, alone_self, hv]

theorem next_miss (h : s.phase = alone t .entered) (hv : s.value = none) :
    s.next t c = some { s with phase := alone t .locking } := by
  rw [← goto_alone h, next, h, alone_self, hv]

theorem next_lock (h : s.phase = alone t .locking) (ho : s.owner = none) (hp : s.poisoned = false) :
    s.next t c = some { s with owner := some t, phase := alone t .looking } := by
  have goes := goto_alone (s := { s with owner := some t }) h .looking
  rw [next, h, alone_self]
  exact (acquire_of_none ho hp).trans (congrArg some goes)

theorem next_claim (h : s.phase = alone t .looking) (hv : s.value = none) (hs : s.stage = .empty) :
    s.next t c = some { s with
      owner := none, stage := .inProgress, phase := alone t .constructing, history := .started t :: s.history } := by
  have goes := goto_alone (s := { s with owner := none, stage := .inProgress }) h .constructing
  rw [next, h, alone_self]
  dsimp only
  unfold look
  split
  · rename_i found
    cases hv.symm.trans found
  · rename_i busy
    cases hs.symm.trans busy
  · exact congrArg (fun s : State α => some (s.note (.started t))) goes

theorem next_finish (h : s.phase = alone t .constructing) (ho : s.owner = none) :
    s.next t c = some { s with phase := alone t (.storing c), history := .ended t c :: s.history } := by
  have usable : (s.poisoned || (c.isPanic && decide (s.owner = some t))) = s.poisoned := by simp [ho]
  rw [next, h, alone_self, State.finish, usable]
  exact congrArg (fun s : State α => some (s.note (.ended t c))) (goto_alone h (.storing c))

theorem next_relock (h : s.phase = alone t (.storing o)) (ho : s.owner = none) (hp : s.poisoned = false) :
    s.next t c = some { s with owner := some t, phase := alone t (.recording o) } := by
  have goes := goto_alone (s := { s with owner := some t }) h (.recording o)
  rw [next, h, alone_self]
  exact (acquire_of_none ho hp).trans (congrArg some goes)

theorem next_record (h : s.phase = alone t (.recording o)) (hv : s.value = none) :
    s.next t c = some { s with value := o.value?, phase := alone t (.settling o) } := by
  have goes := goto_alone (s := { s with value := o.value? }) h (.settling o)
  rw [next, h, alone_self, ← goes]
  cases o with
  | value v =>
    have kept : s.value.getD v = v := by rw [hv]; rfl
    dsimp only [record]
    rw [kept]
    rfl
  | failed | panicked =>
    have same : { s with value := none } = s := by rw [← hv]
    dsimp only [record, Outcome.value?]
    rw [same]

theorem next_settle (h : s.phase = alone t (.settling o)) :
    s.next t c = some { s with owner := none, stage := stageAfter o, phase := alone t (.notifying o) } := by
  have goes := goto_alone (s := { s with owner := none, stage := stageAfter o }) h (.notifying o)
  rw [next, h, alone_self]
  exact congrArg some goes

theorem next_notify (h : s.phase = alone t (.notifying o)) :
    s.next t c = some { s with phase := alone t (.leaving o) } := by
  -- Nobody waits.
  have notified : s.notifyAll.phase = alone t (.notifying o) := by
    funext u
    by_cases hu : u = t <;> simp [notifyAll, h, alone, hu]
  rw [next, h, alone_self]
  exact congrArg some (goto_alone notified (.leaving o))

theorem next_leave (h : s.phase = alone t (.leaving o)) :
    s.next t c = some { s with phase := fun _ => .outside, history := .returned t o :: s.history } := by
  rw [next, h, alone_self, ← alone_outside t]
  exact congrArg (fun s : State α => some (s.note (.returned t o))) (goto_alone h .outside)

/-- Nobody is in a call. -/
structure Resting (s : State α) : Prop where
  reachable : s.Reachable
  outside : s.phase = fun _ => .outside

namespace Resting

theorem initial (service : String) : (State.initial (α := α) service).Resting := ⟨.initial service, rfl⟩

theorem phase_eq (h : s.Resting) (t : Thread) : s.phase t = .outside := congrFun h.outside t

theorem owner_eq (h : s.Resting) : s.owner = none := by
  cases ho : s.owner with
  | none => rfl
  | some t =>
    have holds := (h.reachable.guarded.owner t).1 ho
    rw [h.phase_eq t] at holds
    cases holds

theorem stage_eq (h : s.Resting) : s.stage = if s.value.isSome then .ready else .empty := by
  have g := h.reachable.guarded
  have idle : s.stage ≠ .inProgress := by
    intro hs
    obtain ⟨t, ht⟩ := g.stage.1 hs
    rw [h.phase_eq t] at ht
    cases ht
  cases hv : s.value with
  | none =>
    cases hs : s.stage with
    | empty => rfl
    | inProgress => exact absurd hs idle
    | ready =>
      obtain ⟨v, hv'⟩ := g.ready hs
      cases hv.symm.trans hv'
  | some v =>
    rcases g.set v hv with hs | ⟨t, ht⟩
    · exact hs
    · rw [h.phase_eq t] at ht
      cases ht

theorem call_eq (h : s.Resting) (t : Thread) :
    s.call t = some { s with phase := alone t .entered, history := .called t :: s.history } := by
  have goes := goto_alone (h.outside.trans (alone_outside t).symm) .entered
  rw [State.call, h.phase_eq t]
  exact congrArg (fun s : State α => some (s.note (.called t))) goes

/-- Who asks a slot that has its value gets that. -/
theorem ask_of_some (h : s.Resting) (hv : s.value = some v) (t : Thread) (c : Outcome α) :
    s.ask t c = { s with history := .returned t (.value v) :: .called t :: s.history } := by
  let entered : State α := { s with phase := alone t .entered, history := .called t :: s.history }
  have hit := next_hit (s := entered) (c := c) rfl hv
  have leave := next_leave (s := { entered with phase := alone t (.leaving (.value v)) }) (c := c) rfl
  rw [ask, h.call_eq t, Option.getD_some, runThread, callSteps, runUntil_next rfl hit, runUntil_next rfl leave,
    runUntil_of_outside rfl, ← h.outside]

/-- Who asks an empty slot runs the constructor and gets what that comes to; the slot keeps a value. -/
theorem ask_of_none (h : s.Resting) (hv : s.value = none) (t : Thread) (c : Outcome α) :
    s.ask t c = { s with
      stage := stageAfter c, value := c.value?,
      history := .returned t c :: .ended t c :: .started t :: .called t :: s.history } := by
  have owner := h.owner_eq
  have usable := h.reachable.guarded.usable
  have stage : s.stage = .empty := by rw [h.stage_eq, hv]; rfl
  let entered : State α := { s with phase := alone t .entered, history := .called t :: s.history }
  let building : State α := { entered with
    owner := none, stage := .inProgress, phase := alone t .constructing, history := .started t :: entered.history }
  let built : State α := { building with phase := alone t (.storing c), history := .ended t c :: building.history }
  let stored : State α := { built with owner := some t, value := c.value?, phase := alone t (.settling c) }
  let settled : State α := { stored with owner := none, stage := stageAfter c, phase := alone t (.notifying c) }
  have miss := next_miss (s := entered) (c := c) rfl hv
  have lock := next_lock (s := { entered with phase := alone t .locking }) (c := c) rfl owner usable
  have claim := next_claim (s := { entered with owner := some t, phase := alone t .looking }) (c := c) rfl hv stage
  have finish := next_finish (s := building) (c := c) rfl rfl
  have relock := next_relock (s := built) (c := c) rfl rfl usable
  have record := next_record (s := { built with owner := some t, phase := alone t (.recording c) }) (c := c) rfl hv
  have settle := next_settle (s := stored) (c := c) rfl
  have notify := next_notify (s := settled) (c := c) rfl
  have leave := next_leave (s := { settled with phase := alone t (.leaving c) }) (c := c) rfl
  rw [ask, h.call_eq t, Option.getD_some, runThread, callSteps, runUntil_next rfl miss, runUntil_next rfl lock,
    runUntil_next rfl claim, runUntil_next rfl finish, runUntil_next rfl relock, runUntil_next rfl record,
    runUntil_next rfl settle, runUntil_next rfl notify, runUntil_next rfl leave, runUntil_of_outside rfl]
  rw [← h.outside, owner]

theorem ask (h : s.Resting) (t : Thread) (c : Outcome α) : (s.ask t c).Resting where
  reachable := by
    rw [State.ask, h.call_eq t]
    exact reachable_runThread t c (h.reachable.step (.call t (h.call_eq t)))
  outside := by
    cases hv : s.value with
    | none => rw [h.ask_of_none hv]; exact h.outside
    | some v => rw [h.ask_of_some hv]; exact h.outside

theorem value_ask (h : s.Resting) (t : Thread) (c : Outcome α) : (s.ask t c).value = s.value.or c.value? := by
  cases hv : s.value with
  | none => rw [h.ask_of_none hv]; rfl
  | some v => rw [h.ask_of_some hv]; exact hv

theorem lastReturn?_ask (h : s.Resting) (t : Thread) (c : Outcome α) :
    (s.ask t c).lastReturn? t = some ((s.value.map .value).getD c) := by
  cases hv : s.value with
  | none => rw [h.ask_of_none hv]; simp [lastReturn?]
  | some v => rw [h.ask_of_some hv]; simp [lastReturn?]

theorem constructions_ask (h : s.Resting) (t : Thread) (c : Outcome α) :
    (s.ask t c).constructions = s.constructions + if s.value.isSome then 0 else 1 := by
  cases hv : s.value with
  | none => rw [h.ask_of_none hv]; simp [constructions]
  | some v => rw [h.ask_of_some hv]; simp [constructions]

theorem service_ask (h : s.Resting) (t : Thread) (c : Outcome α) : (s.ask t c).service = s.service := by
  cases hv : s.value with
  | none => rw [h.ask_of_none hv]
  | some v => rw [h.ask_of_some hv]

theorem successes_le_one (h : s.Resting) : successes s.history ≤ 1 := Slot.successes_le_one h.reachable.told.tail

end Resting

end State

end IdentityClient.Slot
