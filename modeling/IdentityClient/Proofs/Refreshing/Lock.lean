import IdentityClient.Proofs.Refreshing.Move

/-!
# Who has the lock

A call stands apart from the lock, waits for it, or has it (`Phase.stand`). The line (`State.line`) is the
owner with the queue behind it. `Orderly`: those in the line are the calls that wait or have the lock, each
once, and whoever has the lock is its owner. So one call at a time is past the lock
(`Orderly.eq_of_holding`); the line grows at its end, and whoever gives the lock back or is given up is taken
out of it (`line_leave`).
-/

namespace IdentityClient.Refreshing

/-- How a call stands to the lock. -/
inductive Stand where
  | apart
  | waiting
  | holding
  deriving DecidableEq

def Phase.stand : Phase → Stand
  | .outside | .entered | .missed | .asking _ | .leaving _ | .done => .apart
  | .queued _ => .waiting
  | .rechecking _ | .comparing _ | .consulting | .starting | .exchanging | .ended _ | .stored _
  | .cleared _ | .warned _ | .written _ | .unlocking _ => .holding

namespace State

/-- Who has the lock and who waits for it, in the order of arrival. -/
def line (s : State) : List CallId := s.owner.toList ++ s.queue

structure Orderly (s : State) : Prop where
  idle : s.owner = none → s.queue = []
  nodup : s.line.Nodup
  mem : ∀ c, c ∈ s.line ↔ (s.phase c).stand ≠ .apart
  holder : ∀ {c}, (s.phase c).stand = .holding → s.owner = some c

variable {s s' : State} {c d : CallId} {p : Phase}

theorem line_of_owner (h : s.owner = some c) : s.line = c :: s.queue := by
  simp [line, h]

theorem line_goto (s : State) (c : CallId) (p : Phase) : (s.goto c p).line = s.line := rfl

theorem goto_stand (s : State) (c d : CallId) (p : Phase) :
    ((s.goto c p).phase d).stand = if d = c then p.stand else (s.phase d).stand := by
  by_cases h : d = c <;> simp [goto, h]

namespace Orderly

theorem line_eq_nil (h : Orderly s) (ho : s.owner = none) : s.line = [] := by
  simp [line, ho, h.idle ho]

/-- Coming off the lock is coming out of the line. -/
theorem line_leave (h : Orderly s) (c : CallId) : (s.leave c).line = s.line.erase c := by
  by_cases ho : s.owner = some c
  · rw [leave_of_owner ho, line_of_owner ho, List.erase_cons_head]
    show s.queue.head?.toList ++ s.queue.tail = s.queue
    cases s.queue <;> rfl
  · rw [leave_of_not_owner ho]
    show s.owner.toList ++ s.queue.erase c = s.line.erase c
    cases hd : s.owner with
    | none => rw [h.line_eq_nil hd, h.idle hd]; rfl
    | some d =>
      have hne : d ≠ c := by rintro rfl; exact ho hd
      rw [line_of_owner hd, List.erase_cons_tail (by simpa using hne)]
      rfl

theorem eq_of_holding (h : Orderly s) (hc : (s.phase c).stand = .holding)
    (hd : (s.phase d).stand = .holding) : c = d :=
  Option.some.inj ((h.holder hc).symm.trans (h.holder hd))

theorem congr (h : Orderly s) (ho : s'.owner = s.owner) (hq : s'.queue = s.queue)
    (hs : ∀ d, (s'.phase d).stand = (s.phase d).stand) : Orderly s' := by
  have hl : s'.line = s.line := by rw [line, ho, hq]; rfl
  refine ⟨fun hn => ?_, ?_, fun c => ?_, fun hc => ?_⟩
  · rw [hq]; exact h.idle (ho ▸ hn)
  · rw [hl]; exact h.nodup
  · rw [hl, hs]; exact h.mem c
  · rw [ho]; exact h.holder (hs _ ▸ hc)

/-- A call takes the lock when it is free. -/
theorem lock (h : Orderly s) (ho : s.owner = none) (hp : p.stand = .holding) :
    Orderly ({ s with owner := some c }.goto c p) := by
  have apart : ∀ d, (s.phase d).stand = .apart := fun d => by
    have := h.mem d
    rw [h.line_eq_nil ho] at this
    simpa using this
  have hl : ({ s with owner := some c }.goto c p).line = [c] := by
    show c :: s.queue = [c]
    rw [h.idle ho]
  refine ⟨nofun, by simp [hl], fun d => ?_, fun {d} hd => ?_⟩
  · rw [hl, goto_stand]
    by_cases hd : d = c
    · simp [hd, hp]
    · simp [hd, show (s.phase d).stand = .apart from apart d]
  · rw [goto_stand] at hd
    split at hd
    · subst d; rfl
    · exact absurd (hd.symm.trans (apart d)) nofun

/-- A call that stands apart from a lock that is taken queues for it. -/
theorem enqueue (h : Orderly s) (hc : (s.phase c).stand = .apart) (ho : s.owner = some d)
    (hp : p.stand = .waiting) : Orderly ({ s with queue := s.queue ++ [c] }.goto c p) := by
  have hl : ({ s with queue := s.queue ++ [c] }.goto c p).line = s.line ++ [c] :=
    (List.append_assoc ..).symm
  have hmem : c ∉ s.line := fun hm => (h.mem c).1 hm hc
  refine ⟨fun hn => absurd (ho.symm.trans hn) nofun, ?_, fun x => ?_, fun {x} hx => ?_⟩
  · rw [hl, List.nodup_append]
    exact ⟨h.nodup, by simp, by simpa using fun a ha => by rintro rfl; exact hmem ha⟩
  · rw [hl, goto_stand, List.mem_append, h.mem x]
    by_cases hx : x = c
    · simp [hx, hp]
    · simp [hx]
  · rw [goto_stand] at hx
    split at hx
    · exact absurd (hp.symm.trans hx) nofun
    · exact h.holder hx

theorem wake (h : Orderly s) (ho : s.owner = some c) (hp : p.stand = .holding) :
    Orderly (s.goto c p) := by
  refine ⟨h.idle, h.nodup, fun d => ?_, fun {d} hd => ?_⟩
  · rw [goto_stand, line_goto, h.mem d]
    by_cases hd : d = c
    · subst d
      have := (h.mem c).1 (by simp [line_of_owner ho])
      simp [hp, this]
    · simp [hd]
  · rw [goto_stand] at hd
    split at hd
    · subst d; exact ho
    · exact h.holder hd

theorem leave (h : Orderly s) (hp : p.stand = .apart) : Orderly ((s.leave c).goto c p) := by
  have hph : (s.leave c).phase = s.phase := by
    obtain ⟨_, _, e⟩ := leave_eq s c
    rw [e]
  refine ⟨fun hn => ?_, ?_, fun d => ?_, fun {d} hd => ?_⟩
  · by_cases ho : s.owner = some c
    · rw [leave_of_owner ho] at hn ⊢
      have : s.queue = [] := List.head?_eq_none_iff.1 hn
      show s.queue.tail = []
      rw [this]; rfl
    · rw [leave_of_not_owner ho] at hn ⊢
      show s.queue.erase c = []
      rw [h.idle hn]; rfl
  · rw [line_goto, h.line_leave]; exact h.nodup.erase c
  · rw [line_goto, h.line_leave, goto_stand, h.nodup.mem_erase_iff, h.mem d]
    by_cases hd : d = c
    · simp [hd, hp]
    · simp [hd, hph]
  · rw [goto_stand, hph] at hd
    by_cases hdc : d = c
    · rw [if_pos hdc] at hd
      exact absurd (hp.symm.trans hd) nofun
    · rw [if_neg hdc] at hd
      have ho : s.owner = some d := h.holder hd
      rw [leave_of_not_owner (by rw [ho]; simpa using hdc)]
      exact ho

theorem move (h : Orderly s) (m : Move s c s') : Orderly s' := by
  cases m with
  | lock _ ho => exact h.lock ho rfl
  | queue hp ho => exact (h.enqueue (p := .queued _) (by rw [hp]; rfl) ho rfl).congr rfl rfl fun _ => rfl
  | wake _ ho => exact h.wake ho rfl
  | @unlock o hp =>
    have ho : s.owner = some c := h.holder (by rw [hp]; rfl)
    have := h.leave (c := c) (p := .leaving o) rfl
    rwa [State.leave, if_pos ho] at this
  | quit => exact (h.leave (p := .done) rfl).congr rfl rfl fun _ => rfl
  | _ =>
    refine h.congr rfl rfl fun d => ?_
    by_cases hd : d = c
    · subst d; simp_all [goto, note, write, Phase.stand]
    · simp [goto, note, write, hd]

end Orderly

theorem Reachable.orderly (r : Reachable s) : Orderly s := by
  induction r with
  | initial => exact ⟨fun _ => rfl, List.nodup_nil, by simp [line, State.initial, Phase.stand], nofun⟩
  | primed =>
    exact ⟨fun _ => rfl, List.nodup_nil, by simp [line, State.primed, record, State.initial, Phase.stand], nofun⟩
  | step _ st ih =>
    obtain ⟨c, m⟩ | ⟨d, rfl⟩ := st.move
    · exact ih.move m
    · exact ih.congr rfl rfl fun _ => rfl

end State

end IdentityClient.Refreshing
