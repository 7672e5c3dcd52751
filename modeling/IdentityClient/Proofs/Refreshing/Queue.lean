import IdentityClient.Proofs.Refreshing.Lock

/-!
# First come, first served

Nobody gets in ahead of a call that stands in line for the lock: those before it (`State.ahead`) can only
become fewer (`Orderly.ahead_move`), and the owner stays the owner until it comes off the lock itself
(`Orderly.owner_move`). How far a call is from its turn is measured by who is before it and what the owner
has still to do (`State.distance`): the moves of the owner bring it closer, and no others put it off.
-/

namespace IdentityClient.Refreshing

/-- How much a call in line has to do before it comes off the lock, unless it is to run an exchange. -/
def Phase.work : Phase → Nat
  | .ended _ => 9
  | .stored _ | .warned _ => 8
  | .cleared _ => 7
  | .written _ => 6
  | .queued _ => 5
  | .rechecking _ => 4
  | .comparing _ => 3
  | .consulting => 2
  | .unlocking _ => 1
  | _ => 0

theorem Phase.work_le (p : Phase) : p.work ≤ 9 := by
  cases p <;> simp [work]

namespace State

variable {s s' : State} {c d x : CallId}

/-- Who is before call `c` in line. -/
def ahead (s : State) (c : CallId) : List CallId := s.line.takeWhile (· != c)

theorem takeWhile_erase {l : List CallId} (h : d ≠ c) :
    (l.erase d).takeWhile (· != c) = (l.takeWhile (· != c)).erase d := by
  induction l with
  | nil => rfl
  | cons y l ih =>
    by_cases hy : y = d
    · subst y; simp [h]
    · by_cases hc : y = c
      · subst y; simp [hy]
      · simp [hy, hc, ih]

theorem takeWhile_append_of_mem {l : List CallId} (m : List CallId) (h : c ∈ l) :
    (l ++ m).takeWhile (· != c) = l.takeWhile (· != c) := by
  induction l with
  | nil => cases h
  | cons y l ih =>
    by_cases hc : y = c
    · simp [hc]
    · simp [hc, ih (by simpa [Ne.symm hc] using h)]

theorem mem_line_of_ahead (h : d ∈ s.ahead c) : d ∈ s.line := (List.takeWhile_sublist _).mem h

namespace Orderly

theorem owner_of_mem (h : Orderly s) (hc : c ∈ s.line) : ∃ x, s.owner = some x ∧ (x = c ∨ x ∈ s.ahead c) := by
  cases ho : s.owner with
  | none => rw [h.line_eq_nil ho] at hc; cases hc
  | some x =>
    refine ⟨x, rfl, ?_⟩
    rw [ahead, line_of_owner ho]
    by_cases hx : x = c <;> simp [hx]

theorem queued_of_mem (h : Orderly s) (hc : c ∈ s.queue) : s.owner ≠ some c ∧ ∃ n, s.phase c = .queued n := by
  have hne : s.owner ≠ some c := fun ho => by
    have nodup := h.nodup
    rw [line_of_owner ho, List.nodup_cons] at nodup
    exact nodup.1 hc
  have apart := (h.mem c).1 (List.mem_append_right _ hc)
  have holding : (s.phase c).stand ≠ .holding := fun hs => hne (h.holder hs)
  cases hp : s.phase c with
  | queued n => exact ⟨hne, n, rfl⟩
  | outside | entered | missed | asking | leaving | done => rw [hp] at apart; exact absurd rfl apart
  | _ => rw [hp] at holding; exact absurd rfl holding

theorem line_move (h : Orderly s) (m : Move s d s') :
    s'.line = s.line ∨ s'.line = s.line ++ [d] ∨ s'.line = s.line.erase d := by
  cases m with
  | lock _ ho =>
    refine .inr (.inl ?_)
    rw [h.line_eq_nil ho]
    show d :: s.queue = [d]
    rw [h.idle ho]
  | queue => exact .inr (.inl (List.append_assoc ..).symm)
  | unlock hp =>
    refine .inr (.inr ?_)
    rw [← h.line_leave, State.leave, if_pos (h.holder (by rw [hp]; rfl))]
    rfl
  | quit => exact .inr (.inr (h.line_leave d))
  | _ => exact .inl rfl

theorem owner_move (h : Orderly s) (ho : s.owner = some x) (hd : d ≠ x) (m : Move s d s') :
    s'.owner = some x := by
  have hne : s.owner ≠ some d := by rw [ho]; simpa using Ne.symm hd
  cases m with
  | lock _ hn => exact absurd (ho.symm.trans hn) nofun
  | unlock hp => exact absurd (h.holder (by rw [hp]; rfl)) hne
  | quit => rw [leave_of_not_owner hne]; exact ho
  | _ => exact ho

/-- A call that waits in line for its turn can only be given up. -/
theorem quit_of_mem (h : Orderly s) (hd : d ∈ s.line) (ho : s.owner ≠ some d) (m : Move s d s') :
    s' = ((s.leave d).goto d .done).note (.dropped d) := by
  have hw : (s.phase d).stand = .waiting := by
    cases hs : (s.phase d).stand with
    | apart => exact absurd hs ((h.mem d).1 hd)
    | waiting => rfl
    | holding => exact absurd (h.holder hs) ho
  cases m with
  | quit => rfl
  | wake _ ho' => exact absurd ho' ho
  | _ => simp_all [Phase.stand]

theorem mem_move (h : Orderly s) (hc : c ∈ s.line) (hd : d ≠ c) (m : Move s d s') : c ∈ s'.line := by
  obtain hl | hl | hl := h.line_move m <;> rw [hl]
  · exact hc
  · exact List.mem_append_left _ hc
  · exact (List.mem_erase_of_ne (Ne.symm hd)).2 hc

theorem ahead_move (h : Orderly s) (hc : c ∈ s.line) (hd : d ≠ c) (m : Move s d s') :
    s'.ahead c = s.ahead c ∨ s'.ahead c = (s.ahead c).erase d := by
  obtain hl | hl | hl := h.line_move m <;> rw [ahead, hl]
  · exact .inl rfl
  · exact .inl (takeWhile_append_of_mem _ hc)
  · exact .inr (takeWhile_erase hd)

theorem ahead_subset (h : Orderly s) (hc : c ∈ s.line) (hc' : c ∈ s'.line) (m : Move s d s') :
    s'.ahead c ⊆ s.ahead c := by
  by_cases hd : d = c
  · subst d
    have nodup := (h.move m).nodup
    obtain hl | hl | hl := h.line_move m
    · rw [ahead, hl]; exact List.Subset.refl _
    · rw [hl, List.nodup_append] at nodup
      exact absurd rfl (nodup.2.2 c hc c (List.mem_singleton_self c))
    · rw [hl] at hc'
      exact absurd rfl (h.nodup.mem_erase_iff.1 hc').1
  · obtain hl | hl := h.ahead_move hc hd m <;> rw [hl]
    · exact List.Subset.refl _
    · exact List.erase_subset

end Orderly

theorem Move.work_lt (m : Move s c s') (h : 0 < (s.phase c).work) : (s'.phase c).work < (s.phase c).work := by
  cases m with
  | quit => simpa [goto, note, Phase.work] using h
  | _ => simp_all [goto, note, write, Phase.work]

/-- The call whose move it is: the one that has the lock. -/
def charge (s : State) : CallId := s.owner.getD 0

/-- How far call `c` is from its turn. -/
def distance (s : State) (c : CallId) : Nat := 10 * (s.ahead c).length + (s.phase s.charge).work

theorem charge_of_owner (h : s.owner = some x) : s.charge = x := by simp [charge, h]

theorem next_isSome_of_work (ho : s.owner = some x) (h : 0 < (s.phase x).work) : (s.next x).isSome := by
  unfold next
  split <;> first | rfl | (simp_all [Phase.work]; done) | skip
  split <;> rfl

namespace Orderly

/-- The others do not put off the turn of a call in line. -/
theorem distance_move (h : Orderly s) (hc : c ∈ s.line) (hd : d ≠ c) (ho : s.owner ≠ some d)
    (m : Move s d s') :
    s'.distance c < s.distance c ∨ (s'.distance c = s.distance c ∧ s'.charge = s.charge) := by
  obtain ⟨x, hx, -⟩ := h.owner_of_mem hc
  have hdx : d ≠ x := by rintro rfl; exact ho hx
  have hx' := h.owner_move hx hdx m
  have hl : (s'.ahead c).length ≤ (s.ahead c).length := by
    obtain hl | hl := h.ahead_move hc hd m
    · exact Nat.le_of_eq (congrArg List.length hl)
    · rw [hl]; exact List.length_erase_le
  have hch : s'.charge = s.charge := by rw [charge_of_owner hx, charge_of_owner hx']
  have hw : (s'.phase s'.charge).work = (s.phase s.charge).work := by
    rw [hch, charge_of_owner hx, m.phase_of_ne (Ne.symm hdx)]
  obtain hlt | heq := Nat.lt_or_eq_of_le hl
  · left; rw [distance, distance, hw]; omega
  · right; exact ⟨by rw [distance, distance, hw, heq], hch⟩

/-- The owner brings the turn of a call in line closer. -/
theorem distance_lt (h : Orderly s) (hc : c ∈ s.line) (hc' : c ∈ s'.line) (ho : s.owner = some d)
    (hw : 0 < (s.phase d).work) (m : Move s d s') : s'.distance c < s.distance c := by
  -- An owner that comes off the lock is one fewer before `c`, whatever the next one has to do.
  have off (hl : s'.line = s.line.erase d) : s'.distance c < s.distance c := by
    have hdc : d ≠ c := by
      rintro rfl
      rw [hl] at hc'
      exact (h.nodup.mem_erase_iff.1 hc').1 rfl
    have hlen : (s'.ahead c).length + 1 = (s.ahead c).length := by
      rw [ahead, hl, takeWhile_erase hdc, line_of_owner ho]
      simp [ahead, line_of_owner ho, hdc]
    have := (s'.phase s'.charge).work_le
    rw [distance, distance]
    omega
  have on (hl : s'.line = s.line) (ho' : s'.owner = some d) : s'.distance c < s.distance c := by
    rw [distance, distance, ahead, hl, charge_of_owner ho, charge_of_owner ho']
    exact Nat.add_lt_add_left (m.work_lt hw) _
  cases m with
  | unlock hp =>
    refine off ?_
    rw [← h.line_leave, State.leave, if_pos ho]
    rfl
  | quit => exact off (h.line_leave d)
  | lock _ ho' => cases ho.symm.trans ho'
  | queue hp => rw [hp] at hw; cases hw
  | _ => exact on rfl ho

end Orderly

end State

end IdentityClient.Refreshing
