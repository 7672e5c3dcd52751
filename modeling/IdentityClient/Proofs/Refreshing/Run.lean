import IdentityClient.Proofs.Refreshing.Cache

/-!
# Runs

A run of a source goes on for ever, with steps and pauses in any order. It is fair if a call that can go on
is not held back for ever (`Run.Fair`); then what the moves of the calls in charge bring closer comes about
(`Run.Fair.eventually`). A finite schedule makes a run that rests at its end (`Run.ofActs`), and it is fair if
nobody can go on there (`Run.fair_ofActs`).
-/

namespace IdentityClient.Refreshing

/-- A source that nobody has asked yet; it may hold a first token. -/
inductive State.IsNew : State → Prop
  | initial (now : Instant) (margin : Duration) : IsNew (.initial now margin)
  | primed (now : Instant) (margin : Duration) (t : AccessToken) : IsNew (.primed now margin t)

theorem State.IsNew.reachable {s : State} (h : s.IsNew) : s.Reachable := by
  cases h with
  | initial => exact .initial _ _
  | primed => exact .primed _ _ _

theorem State.IsNew.history_eq {s : State} (h : s.IsNew) : s.history = [] := by
  cases h <;> rfl

/-- A sequence of states, each the next step of the one before or the same. -/
structure Run where
  state : Nat → State
  reachable_zero : (state 0).Reachable
  next (i : Nat) : (state i).Step (state (i + 1)) ∨ state (i + 1) = state i

namespace Run

variable {r : Run} {i j : Nat}

/-- A call that can always go on from some time on does so at some time. -/
def Fair (r : Run) : Prop :=
  ∀ c i, (∀ j, i ≤ j → ((r.state j).next c).isSome) →
    ∃ j, i ≤ j ∧ (r.state j).next c = some (r.state (j + 1))

theorem reachable (r : Run) (i : Nat) : (r.state i).Reachable := by
  induction i with
  | zero => exact r.reachable_zero
  | succ i ih =>
    obtain h | h := r.next i
    · exact .step ih h
    · rw [h]; exact ih

/-- What every step keeps holds from then on. -/
theorem keep {P : State → Prop} (step : ∀ s s', s.Reachable → P s → s.Step s' → P s') (hij : i ≤ j)
    (h : P (r.state i)) : P (r.state j) := by
  induction hij with
  | refl => exact h
  | @step j _ ih =>
    obtain hs | hs := r.next j
    · exact step _ _ (r.reachable j) ih hs
    · rw [hs]; exact ih

theorem suffix_history (hij : i ≤ j) : (r.state i).history <:+ (r.state j).history :=
  keep (P := fun s => (r.state i).history <:+ s.history) (fun _ _ _ h st => h.trans st.suffix_history) hij
    (List.suffix_refl _)

/-- What has happened in a run has happened at one of its steps. -/
theorem exists_step_of_mem {e : Event} (h : e ∈ (r.state i).history) (new : (r.state 0).history = []) :
    ∃ j, j < i ∧ (r.state j).Step (r.state (j + 1)) ∧
      (r.state (j + 1)).history = e :: (r.state j).history := by
  induction i with
  | zero => rw [new] at h; cases h
  | succ i ih =>
    by_cases old : e ∈ (r.state i).history
    · obtain ⟨j, hj, hs⟩ := ih old
      exact ⟨j, Nat.lt_succ_of_lt hj, hs⟩
    · obtain st | same := r.next i
      · refine ⟨i, Nat.lt_succ_self i, st, ?_⟩
        obtain ⟨c, m⟩ | ⟨d, he⟩ := st.move
        · rcases m.history with hh | ⟨e', -, hh⟩
          · exact absurd (hh ▸ h) old
          · rw [hh] at h ⊢
            rw [(List.mem_cons.1 h).resolve_right old]
        · rw [he] at h
          exact absurd h old
      · rw [same] at h
        exact absurd h old

theorem mem_history {e : Event} (hij : i ≤ j) (h : e ∈ (r.state i).history) : e ∈ (r.state j).history :=
  (suffix_history hij).subset h

/-- In a fair run, `Q` comes about if until then `P` holds, the call in charge can go on and its moves lower
the rank, and all other steps raise neither the rank nor, at the same rank, put another call in charge. -/
theorem Fair.eventually (fair : r.Fair) {P Q : State → Prop} (rank : State → Nat) (charge : State → CallId)
    (step : ∀ s s', s.Reachable → P s → s.Step s' →
      Q s' ∨ (P s' ∧ (rank s' < rank s ∨ (rank s' = rank s ∧ charge s' = charge s))))
    (able : ∀ s, s.Reachable → P s → (s.next (charge s)).isSome)
    (lower : ∀ s s', s.Reachable → P s → s.next (charge s) = some s' → Q s' ∨ rank s' < rank s)
    (h : P (r.state i)) : ∃ j, i ≤ j ∧ Q (r.state j) := by
  generalize hn : rank (r.state i) = n
  induction n using Nat.strongRecOn generalizing i with
  | ind n ih =>
    by_cases never : ∃ j, i ≤ j ∧ Q (r.state j)
    · exact never
    have descend {j : Nat} (hij : i ≤ j) (hP : P (r.state j)) (hlt : rank (r.state j) < n) : False := by
      obtain ⟨k, hjk, hQ⟩ := ih _ hlt hP rfl
      exact never ⟨k, Nat.le_trans hij hjk, hQ⟩
    -- As the rank cannot sink for good, it stays, and so does the call in charge.
    have stay : ∀ j, i ≤ j →
        P (r.state j) ∧ rank (r.state j) = n ∧ charge (r.state j) = charge (r.state i) := by
      intro j hij
      induction hij with
      | refl => exact ⟨h, hn, rfl⟩
      | @step j hij ihj =>
        obtain ⟨hP, hr, hc⟩ := ihj
        obtain hs | hs := r.next j
        · obtain hQ | ⟨hP', hlt | ⟨hr', hc'⟩⟩ := step _ _ (r.reachable j) hP hs
          · exact absurd ⟨_, Nat.le_succ_of_le hij, hQ⟩ never
          · exact (descend (Nat.le_succ_of_le hij) hP' (hr ▸ hlt)).elim
          · exact ⟨hP', hr'.trans hr, hc'.trans hc⟩
        · rw [hs]; exact ⟨hP, hr, hc⟩
    obtain ⟨j, hij, hnext⟩ := fair (charge (r.state i)) i fun j hij => by
      obtain ⟨hP, _, hc⟩ := stay j hij
      exact hc ▸ able _ (r.reachable j) hP
    obtain ⟨hP, hr, hc⟩ := stay j hij
    obtain hQ | hlt := lower _ _ (r.reachable j) hP (hc ▸ hnext)
    · exact ⟨_, Nat.le_succ_of_le hij, hQ⟩
    · have := (stay (j + 1) (Nat.le_succ_of_le hij)).2.1
      omega

end Run

/-- What can be done to a source. -/
inductive Act where
  | call (c : CallId)
  | next (c : CallId)
  | finish (c : CallId) (o : Outcome)
  | drop (c : CallId)
  | elapse (d : Duration)

/-- Call `c` takes `n` steps of its own. -/
def Act.steps (c : CallId) (n : Nat) : List Act := List.replicate n (.next c)

namespace State

def act? (s : State) : Act → Option State
  | .call c => s.call c
  | .next c => s.next c
  | .finish c o => s.finish c o
  | .drop c => s.drop c
  | .elapse d => some (s.elapse d)

/-- Does what can be done, and nothing otherwise. -/
def perform (s : State) (a : Act) : State := (s.act? a).getD s

def play (s : State) (acts : List Act) : State := acts.foldl perform s

theorem perform_step (s : State) (a : Act) : s.Step (s.perform a) ∨ s.perform a = s := by
  unfold perform
  cases h : s.act? a with
  | none => exact .inr rfl
  | some s' =>
    refine .inl ?_
    cases a with
    | call c => exact .call c h
    | next c => exact .next c h
    | finish c o => exact .finish c o h
    | drop c => exact .drop c h
    | elapse d => cases h; exact .elapse d

theorem Reachable.play {s : State} (r : Reachable s) (acts : List Act) : Reachable (s.play acts) := by
  induction acts generalizing s with
  | nil => exact r
  | cons a acts ih =>
    refine ih ?_
    obtain h | h := s.perform_step a
    · exact .step r h
    · rw [h]; exact r

end State

namespace Run

/-- The run that keeps to a schedule and rests at its end. -/
def ofActs {s : State} (r : s.Reachable) (acts : List Act) : Run where
  state i := s.play (acts.take i)
  reachable_zero := r
  next i := by
    rcases Nat.lt_or_ge i acts.length with h | h
    · have hs : s.play (acts.take (i + 1)) = (s.play (acts.take i)).perform acts[i] := by
        rw [List.take_succ_eq_append_getElem h]
        exact List.foldl_append
      rw [hs]
      exact State.perform_step _ _
    · rw [List.take_of_length_le h, List.take_of_length_le (Nat.le_succ_of_le h)]
      exact .inr rfl

theorem mem_history_ofActs {s : State} (r : s.Reachable) (acts : List Act) {e : Event} {i : Nat}
    (h : e ∈ ((ofActs r acts).state i).history) : e ∈ (s.play acts).history := by
  have rest : (ofActs r acts).state (max i acts.length) = s.play acts :=
    congrArg s.play (List.take_of_length_le (Nat.le_max_right ..))
  exact rest ▸ mem_history (Nat.le_max_left ..) h

theorem fair_ofActs {s : State} (r : s.Reachable) (acts : List Act)
    (rest : ∀ c, (s.play acts).next c = none) : (ofActs r acts).Fair := by
  intro c i able
  have h : ((s.play (acts.take (max i acts.length))).next c).isSome := able _ (Nat.le_max_left ..)
  rw [List.take_of_length_le (Nat.le_max_right ..), rest c] at h
  cases h

end Run

end IdentityClient.Refreshing
