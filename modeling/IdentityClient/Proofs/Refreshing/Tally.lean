import IdentityClient.Proofs.Refreshing.Counter
import IdentityClient.Proofs.Refreshing.Run
import Mathlib.Logic.Relation

/-!
# What the counter and the log add up to

Every exchange that has been started is counted in the end, or given up, or under way (`Tallied`); the log has one
record for each that is counted, in the same order, and for one that is about to be (`Reported`). One exchange at
a time is under way, since its call has the lock.
-/

namespace IdentityClient.Refreshing

/-- How many exchanges have been given up, by the calls that had started them. -/
def abandoned : List Event → Nat
  | [] => 0
  | .dropped c :: h => abandoned h + if .started c ∈ h then 1 else 0
  | _ :: h => abandoned h

/-- What is logged about an exchange that has ended. -/
def report : Outcome → LogRecord
  | .token _ => State.obtained
  | .failed e => State.failure e

/-- How the exchange has ended that has been logged and not counted. -/
def Phase.reported? : Phase → Option Outcome
  | .warned e => some (.failed e)
  | .written o => some o
  | _ => none

theorem Phase.stand_of_isUnderWay {p : Phase} (h : p.isUnderWay) : p.stand = .holding := by
  cases p <;> first | rfl | cases h

theorem Phase.stand_of_reported? {p : Phase} {o : Outcome} (h : p.reported? = some o) : p.stand = .holding := by
  cases p <;> first | rfl | cases h

namespace State

variable {s₀ s s' : State} {c d : CallId} {o : Outcome}

/-- The exchanges that have been started are those counted and those given up, and one that is under way. -/
structure Tallied (s₀ s : State) : Prop where
  counted : s.attempts = s₀.attempts + (recordings s.history).length
  idle : (∀ c, (s.phase c).isUnderWay = false) → s₀.attempts + s.exchanges = s.attempts + abandoned s.history
  busy : ∀ c, (s.phase c).isUnderWay → s₀.attempts + s.exchanges = s.attempts + abandoned s.history + 1

/-- The log has a record for each exchange counted, and for one that is about to be. -/
structure Reported (s₀ s : State) : Prop where
  idle : (∀ c, (s.phase c).reported? = none) → s.log = s₀.log ++ ((recordings s.history).map report).reverse
  busy : ∀ c o, (s.phase c).reported? = some o →
    s.log = s₀.log ++ ((o :: recordings s.history).map report).reverse

namespace Tallied

theorem congr (h : Tallied s₀ s) (hx : s'.exchanges = s.exchanges) (ha : s'.attempts = s.attempts)
    (hr : recordings s'.history = recordings s.history) (hd : abandoned s'.history = abandoned s.history)
    (hp : ∀ c, (s'.phase c).isUnderWay = (s.phase c).isUnderWay) : Tallied s₀ s' := by
  refine ⟨?_, fun idle => ?_, fun c hc => ?_⟩
  · rw [ha, hr]; exact h.counted
  · rw [hx, ha, hd]; exact h.idle fun c => (hp c).symm.trans (idle c)
  · rw [hx, ha, hd]; exact h.busy c ((hp c).symm.trans hc)

theorem idle_of_holding (ord : Orderly s) (hc : (s.phase c).stand = .holding) (hn : (s.phase c).isUnderWay = false)
    (d : CallId) : (s.phase d).isUnderWay = false := by
  cases hd : (s.phase d).isUnderWay with
  | false => rfl
  | true =>
    obtain rfl := ord.eq_of_holding hc (Phase.stand_of_isUnderWay hd)
    exact hd.symm.trans hn

theorem start (h : Tallied s₀ s) (ord : Orderly s) (hp : s.phase c = .starting) :
    Tallied s₀ ((s.goto c .exchanging).note (.started c)) := by
  have before := h.idle (idle_of_holding ord (c := c) (by rw [hp]; rfl) (by rw [hp]; rfl))
  have more : ((s.goto c .exchanging).note (.started c)).exchanges = s.exchanges + 1 := rfl
  have mine : ((s.goto c .exchanging).phase c).isUnderWay = true := congrArg Phase.isUnderWay (goto_phase_self ..)
  refine ⟨h.counted, fun idle => ?_, fun d _ => ?_⟩
  · cases mine.symm.trans (idle c)
  · rw [more]
    show s₀.attempts + (s.exchanges + 1) = s.attempts + abandoned s.history + 1
    omega

theorem idle_goto (ord : Orderly s) (hc : (s.phase c).stand = .holding) {p : Phase} (hn : p.isUnderWay = false)
    (d : CallId) : ((s.goto c p).phase d).isUnderWay = false := by
  by_cases hd : d = c
  · rw [hd, goto_phase_self]; exact hn
  · rw [goto_phase_of_ne _ _ hd]
    cases hu : (s.phase d).isUnderWay with
    | false => rfl
    | true => exact absurd (ord.eq_of_holding (Phase.stand_of_isUnderWay hu) hc) hd

theorem record (h : Tallied s₀ s) (ord : Orderly s) (hp : s.phase c = .written o) :
    Tallied s₀ (({ s with attempts := s.attempts + 1 }.goto c (.unlocking o)).note (.recorded c o)) := by
  have before := h.busy c (by rw [hp]; rfl)
  have idle := idle_goto ord (c := c) (p := .unlocking o) (by rw [hp]; rfl) rfl
  refine ⟨?_, fun _ => ?_, fun d hd => ?_⟩
  · show s.attempts + 1 = s₀.attempts + (o :: recordings s.history).length
    rw [List.length_cons, h.counted]
    omega
  · show s₀.attempts + s.exchanges = s.attempts + 1 + abandoned s.history
    omega
  · cases (idle d).symm.trans hd

theorem quit (h : Tallied s₀ s) (r : Reachable s) (hq : (s.phase c).canQuit) :
    Tallied s₀ (((s.leave c).goto c .done).note (.dropped c)) := by
  obtain ⟨owner, queue, he⟩ := leave_eq s c
  rw [he]
  -- Of the calls that can be given up, those in the middle of their exchange are the ones that have started one.
  have started : .started c ∈ s.history ↔ s.phase c = .exchanging := by
    rw [← (r.life c).started_iff hq, mem_own]
    exact ⟨fun hm => ⟨hm, rfl⟩, fun hm => hm.1⟩
  by_cases hp : s.phase c = .exchanging
  · have before := h.busy c (by rw [hp]; rfl)
    have idle := idle_goto r.orderly (c := c) (p := .done) (by rw [hp]; rfl) rfl
    refine ⟨h.counted, fun _ => ?_, fun d hd => ?_⟩
    · show s₀.attempts + s.exchanges = s.attempts + (abandoned s.history + if .started c ∈ s.history then 1 else 0)
      rw [if_pos (started.2 hp)]
      omega
    · cases (idle d).symm.trans hd
  · refine h.congr rfl rfl rfl ?_ fun d => ?_
    · show (abandoned s.history + if .started c ∈ s.history then 1 else 0) = abandoned s.history
      rw [if_neg fun hm => hp (started.1 hm)]
      rfl
    · show ((s.goto c .done).phase d).isUnderWay = (s.phase d).isUnderWay
      by_cases hd : d = c
      · rw [hd, goto_phase_self]
        revert hq hp
        cases s.phase c <;> first | exact fun _ _ => rfl | exact nofun
      · rw [goto_phase_of_ne _ _ hd]

theorem move (h : Tallied s₀ s) (r : Reachable s) (m : Move s c s') : Tallied s₀ s' := by
  have same {p p' : Phase} (hp : s.phase c = p) (hp' : s'.phase c = p') (hu : p'.isUnderWay = p.isUnderWay) :=
    m.same Phase.isUnderWay hp hp' hu
  cases m with
  | start hp => exact h.start r.orderly hp
  | record hp => exact h.record r.orderly hp
  | quit hq => exact h.quit r hq
  | unlock hp =>
    have same := same hp (goto_phase_self ..) rfl
    revert same
    rw [release_eq]
    exact h.congr rfl rfl rfl rfl
  | call hp | hit hp | miss hp | count hp | lock hp | queue hp | wake hp | lateHit hp | lateMiss hp | unchanged hp
  | changed hp | relay hp | retry hp | finish _ hp | store hp | warn hp | clear hp | tell hp | keep hp | ret hp =>
    exact h.congr rfl rfl rfl rfl (same hp (goto_phase_self ..) rfl)

theorem step (h : Tallied s₀ s) (r : Reachable s) (st : s.Step s') : Tallied s₀ s' := by
  obtain ⟨c, m⟩ | ⟨d, rfl⟩ := st.move
  · exact h.move r m
  · exact h.congr rfl rfl rfl rfl fun _ => rfl

end Tallied

namespace Reported

theorem congr (h : Reported s₀ s) (hl : s'.log = s.log) (hr : recordings s'.history = recordings s.history)
    (hp : ∀ c, (s'.phase c).reported? = (s.phase c).reported?) : Reported s₀ s' := by
  refine ⟨fun idle => ?_, fun c o hc => ?_⟩
  · rw [hl, hr]; exact h.idle fun c => (hp c).symm.trans (idle c)
  · rw [hl, hr]; exact h.busy c o ((hp c).symm.trans hc)

/-- The call that has the lock is the only one that can have logged its exchange and not counted it. -/
theorem eq_of_goto (ord : Orderly s) (hc : (s.phase c).stand = .holding) {p : Phase}
    (hd : ((s.goto c p).phase d).reported? = some o) : d = c ∧ p.reported? = some o := by
  by_cases hdc : d = c
  · subst d
    rw [goto_phase_self] at hd
    exact ⟨rfl, hd⟩
  · rw [goto_phase_of_ne _ _ hdc] at hd
    exact absurd (ord.eq_of_holding (Phase.stand_of_reported? hd) hc) hdc

theorem write (h : Reported s₀ s) (ord : Orderly s) (hc : (s.phase c).stand = .holding)
    (hn : (s.phase c).reported? = none) {p : Phase} (hp : p.reported? = some o) :
    Reported s₀ ((s.write (report o)).goto c p) := by
  have idle : ∀ d, (s.phase d).reported? = none := by
    intro d
    cases hd : (s.phase d).reported? with
    | none => rfl
    | some o' =>
      obtain rfl := ord.eq_of_holding hc (Phase.stand_of_reported? hd)
      exact hd.symm.trans hn
  have before := h.idle idle
  refine ⟨fun silent => ?_, fun d o' hd => ?_⟩
  · have mine : ((s.goto c p).phase c).reported? = some o := (congrArg Phase.reported? (goto_phase_self ..)).trans hp
    cases mine.symm.trans (silent c)
  · obtain ⟨-, ho⟩ := eq_of_goto ord hc hd
    obtain rfl : o = o' := Option.some.inj (hp.symm.trans ho)
    show s.log ++ [report o] = s₀.log ++ ((o :: recordings s.history).map report).reverse
    rw [before, List.map_cons, List.reverse_cons, List.append_assoc]

theorem record (h : Reported s₀ s) (ord : Orderly s) (hp : s.phase c = .written o) :
    Reported s₀ (({ s with attempts := s.attempts + 1 }.goto c (.unlocking o)).note (.recorded c o)) := by
  have before := h.busy c o (by rw [hp]; rfl)
  refine ⟨fun _ => before, fun d o' hd => ?_⟩
  have written := (eq_of_goto ord (c := c) (p := .unlocking o) (by rw [hp]; rfl) hd).2
  cases written

theorem move (h : Reported s₀ s) (ord : Orderly s) (m : Move s c s') : Reported s₀ s' := by
  have same {p p' : Phase} (hp : s.phase c = p) (hp' : s'.phase c = p') (hr : p'.reported? = p.reported?) :=
    m.same Phase.reported? hp hp' hr
  cases m with
  | @warn e hp => exact h.write (o := .failed e) ord (by rw [hp]; rfl) (by rw [hp]; rfl) rfl
  | @tell t hp => exact h.write (o := .token t) ord (by rw [hp]; rfl) (by rw [hp]; rfl) rfl
  | record hp => exact h.record ord hp
  | unlock hp =>
    have same := same hp (goto_phase_self ..) rfl
    revert same
    rw [release_eq]
    exact h.congr rfl rfl
  | quit hq =>
    obtain ⟨_, _, e⟩ := leave_eq s c
    refine h.congr (by rw [e]; rfl) (by rw [e]; rfl) (same rfl (goto_phase_self ..) ?_)
    revert hq
    cases s.phase c <;> first | exact fun _ => rfl | exact nofun
  | call hp | hit hp | miss hp | count hp | lock hp | queue hp | wake hp | lateHit hp | lateMiss hp | unchanged hp
  | changed hp | relay hp | retry hp | start hp | finish _ hp | store hp | clear hp | keep hp | ret hp =>
    exact h.congr rfl rfl (same hp (goto_phase_self ..) rfl)

theorem step (h : Reported s₀ s) (r : Reachable s) (st : s.Step s') : Reported s₀ s' := by
  obtain ⟨c, m⟩ | ⟨d, rfl⟩ := st.move
  · exact h.move r.orderly m
  · exact h.congr rfl rfl fun _ => rfl

end Reported

theorem Reachable.of_run (r : Reachable s) (run : Relation.ReflTransGen Step s s') : Reachable s' := by
  induction run with
  | refl => exact r
  | tail _ st ih => exact ih.step st

theorem reaches_play (s : State) (acts : List Act) : Relation.ReflTransGen Step s (s.play acts) := by
  induction acts generalizing s with
  | nil => exact .refl
  | cons a acts ih =>
    rcases s.perform_step a with st | same
    · exact .head st (ih _)
    · have rest := ih (s.perform a)
      rw [same] at rest
      show Relation.ReflTransGen Step s ((s.perform a).play acts)
      rw [same]
      exact rest

theorem IsNew.tallied (new : s₀.IsNew) (run : Relation.ReflTransGen Step s₀ s) : Tallied s₀ s := by
  induction run with
  | refl => cases new <;> exact ⟨rfl, fun _ => rfl, nofun⟩
  | tail run st ih => exact ih.step (new.reachable.of_run run) st

theorem IsNew.reported (new : s₀.IsNew) (run : Relation.ReflTransGen Step s₀ s) : Reported s₀ s := by
  induction run with
  | refl => cases new <;> exact ⟨fun _ => rfl, nofun⟩
  | tail run st ih => exact ih.step (new.reachable.of_run run) st

theorem IsNew.length_log (new : s₀.IsNew) : s₀.log.length = s₀.attempts := by
  cases new <;> rfl

/-- An exchange that a call has started is under way until it is counted or the call is given up. -/
def UnderWay (s : State) (c : CallId) : Prop :=
  .started c ∈ s.history ∧ (∀ o, .recorded c o ∉ s.history) ∧ .dropped c ∉ s.history

theorem Reachable.underWay_iff (r : Reachable s) : s.UnderWay c ↔ (s.phase c).isUnderWay := by
  have h := (r.life c).isUnderWay_iff
  simp only [mem_own, Event.call, and_true] at h
  exact h.symm

theorem IsNew.balance (new : s₀.IsNew) (run : Relation.ReflTransGen Step s₀ s) :
    s.attempts = s₀.attempts + (recordings s.history).length ∧
    ((∀ c, ¬ s.UnderWay c) → s₀.attempts + s.exchanges = s.attempts + abandoned s.history) ∧
    ∀ c, s.UnderWay c → s₀.attempts + s.exchanges = s.attempts + abandoned s.history + 1 := by
  have tally := new.tallied run
  have underWay (c : CallId) := (new.reachable.of_run run).underWay_iff (c := c)
  refine ⟨tally.counted, fun idle => tally.idle fun c => ?_, fun c hc => tally.busy c ((underWay c).1 hc)⟩
  exact Bool.eq_false_iff.2 fun hc => idle c ((underWay c).2 hc)

/-- The log has as many records as exchanges are counted, and one more if one is about to be. -/
theorem IsNew.log_eq (new : s₀.IsNew) (run : Relation.ReflTransGen Step s₀ s) :
    ((∀ c, (s.phase c).reported? = none) →
      s.log = s₀.log ++ ((recordings s.history).map report).reverse ∧ s.log.length = s.attempts) ∧
    ∀ c o, (s.phase c).reported? = some o →
      s.log = s₀.log ++ ((o :: recordings s.history).map report).reverse ∧ s.log.length = s.attempts + 1 := by
  have reported := new.reported run
  have counted := (new.tallied run).counted
  refine ⟨fun idle => ⟨reported.idle idle, ?_⟩, fun c o hc => ⟨reported.busy c o hc, ?_⟩⟩
  · rw [reported.idle idle, counted]
    simp [new.length_log]
  · rw [reported.busy c o hc, counted]
    simp [new.length_log, Nat.add_assoc]

end State

end IdentityClient.Refreshing
