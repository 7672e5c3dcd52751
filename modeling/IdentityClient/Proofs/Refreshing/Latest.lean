import IdentityClient.Proofs.Refreshing.Exchange

/-!
# No call goes back to an older token

The cache holds what the latest exchange with a token has given, unless that one has yet to be stored (`Latest`).
Until it is stored no token in the cache is fresh, so a call that finds one finds the latest
(`Latest.of_fresh`). Tokens are numbered in the order of the exchanges; a call that is made after another has
returned reads a token with the same number or a higher one (`Run.tokens_go_forward`).
-/

namespace IdentityClient.Refreshing

variable {first : Option AccessToken}

def Event.given? : Event → Option AccessToken
  | .ended _ (.token t) => some t
  | _ => none

/-- The tokens that exchanges have given, the latest first; the source may have had one at the start. -/
def tokens (first : Option AccessToken) (h : List Event) : List AccessToken :=
  h.filterMap Event.given? ++ first.toList

/-- The token that the exchange of a call has given and that is not in the cache yet. -/
def Phase.fetched? : Phase → Option AccessToken
  | .ended (.token t) => some t
  | _ => none

theorem Phase.fetched?_eq_some {p : Phase} {t : AccessToken} : p.fetched? = some t ↔ p = .ended (.token t) := by
  cases p with
  | ended o => cases o <;> simp [fetched?]
  | _ => simp [fetched?]

theorem length_tokens_le {h h' : List Event} (hs : h <:+ h') : (tokens first h).length ≤ (tokens first h').length := by
  obtain ⟨l, rfl⟩ := hs
  simp only [tokens, List.filterMap_append, List.length_append]
  omega

namespace State

variable {s s' : State} {c d : CallId} {t : AccessToken}

/-- Only a call whose exchange has given a token writes to the cache, and what it writes is that token. -/
theorem Move.cached (m : Move s c s') :
    s'.cached = s.cached ∨
      ∃ t, s.phase c = .ended (.token t) ∧ s' = { s with cached := some t }.goto c (.stored t) := by
  cases m with
  | store hp => exact .inr ⟨_, hp, rfl⟩
  | quit =>
    obtain ⟨_, _, e⟩ := leave_eq s c
    exact .inl (by rw [e]; rfl)
  | unlock => exact .inl (by rw [release_eq]; rfl)
  | _ => exact .inl rfl

/-- The cache holds the latest token that an exchange has given, unless a call has yet to put it there. -/
structure Latest (first : Option AccessToken) (s : State) : Prop where
  cached : (∀ c, (s.phase c).fetched? = none) → s.cached = (tokens first s.history).head?
  fetched : ∀ c t, (s.phase c).fetched? = some t → (tokens first s.history).head? = some t

namespace Latest

theorem congr (h : Latest first s) (hc : s'.cached = s.cached)
    (ht : tokens first s'.history = tokens first s.history)
    (hp : ∀ c, (s'.phase c).fetched? = (s.phase c).fetched?) : Latest first s' := by
  refine ⟨fun dry => ?_, fun c t hf => ?_⟩
  · rw [hc, ht]
    exact h.cached fun c => (hp c).symm.trans (dry c)
  · rw [ht]
    exact h.fetched c t ((hp c).symm.trans hf)

theorem eq_of_fetched (ord : Orderly s) (hc : (s.phase c).stand = .holding) (hd : (s.phase d).fetched? = some t) :
    d = c := by
  refine ord.eq_of_holding ?_ hc
  rw [Phase.fetched?_eq_some.1 hd]
  rfl

theorem finish (ord : Orderly s) (hp : s.phase c = .exchanging) (t : AccessToken) :
    Latest first ((s.goto c (.ended (.token t))).note (.ended c (.token t))) := by
  have mine : ((s.goto c (.ended (.token t))).phase c).fetched? = some t := congrArg Phase.fetched? (goto_phase_self ..)
  refine ⟨fun dry => absurd (mine.symm.trans (dry c)) nofun, fun d u hd => ?_⟩
  by_cases hdc : d = c
  · subst d
    exact congrArg some (Option.some.inj (mine.symm.trans hd))
  · have before : (s.phase d).fetched? = some u := by
      rw [← goto_phase_of_ne s (.ended (.token t)) hdc]
      exact hd
    exact absurd (eq_of_fetched ord (by rw [hp]; rfl) before) hdc

theorem store (h : Latest first s) (ord : Orderly s) (hp : s.phase c = .ended (.token t)) :
    Latest first ({ s with cached := some t }.goto c (.stored t)) := by
  have mine : ((s.goto c (.stored t)).phase c).fetched? = none := congrArg Phase.fetched? (goto_phase_self ..)
  refine ⟨fun _ => (h.fetched c t (by rw [hp]; rfl)).symm, fun d u hd => ?_⟩
  by_cases hdc : d = c
  · subst d
    cases mine.symm.trans hd
  · have before : (s.phase d).fetched? = some u := by
      rw [← goto_phase_of_ne s (.stored t) hdc]
      exact hd
    exact absurd (eq_of_fetched ord (by rw [hp]; rfl) before) hdc

theorem move (h : Latest first s) (ord : Orderly s) (m : Move s c s') : Latest first s' := by
  have same {p p' : Phase} (hp : s.phase c = p) (hp' : s'.phase c = p') (hf : p'.fetched? = p.fetched?) :=
    m.same Phase.fetched? hp hp' hf
  cases m with
  | finish o hp =>
    cases o with
    | token t => exact finish ord hp t
    | failed e => exact h.congr rfl rfl (same hp (goto_phase_self ..) rfl)
  | store hp => exact h.store ord hp
  | quit hq =>
    obtain ⟨_, _, e⟩ := leave_eq s c
    refine h.congr (by rw [e]; rfl) (by rw [e]; rfl) (same rfl (goto_phase_self ..) ?_)
    revert hq
    cases s.phase c <;> first | exact fun _ => rfl | exact nofun
  | unlock hp =>
    exact h.congr (by rw [release_eq]; rfl) (by rw [release_eq]; rfl) (same hp (goto_phase_self ..) rfl)
  | call hp | hit hp | miss hp | count hp | lock hp | queue hp | wake hp | lateHit hp | lateMiss hp | unchanged hp
  | changed hp | relay hp | retry hp | start hp | warn hp | clear hp | tell hp | keep hp | record hp | ret hp =>
    exact h.congr rfl rfl (same hp (goto_phase_self ..) rfl)

theorem step (h : Latest first s) (r : Reachable s) (st : s.Step s') : Latest first s' := by
  obtain ⟨c, m⟩ | ⟨d, rfl⟩ := st.move
  · exact h.move r.orderly m
  · exact h.congr rfl rfl fun _ => rfl

/-- A fresh token in the cache is the latest that an exchange has given. -/
theorem of_fresh (h : Latest first s) (r : Reachable s) (hf : s.fresh = some t) :
    (tokens first s.history).head? = some t := by
  -- A call with a token to put into the cache has found none there that is fresh, and it has the lock since.
  rw [← h.cached fun c => ?_]
  · exact (fresh_eq_some_iff.1 hf).1
  · refine Option.eq_none_iff_forall_ne_some.2 fun u hu => ?_
    have dry : (s.phase c).isDry := by rw [Phase.fetched?_eq_some.1 hu]; rfl
    cases hf.symm.trans (r.fresh_of_isDry dry)

end Latest

theorem IsNew.latest (h : s.IsNew) : Latest s.cached s := by
  cases h <;> exact ⟨fun _ => rfl, nofun⟩

theorem Reachable.mem_called (r : Reachable s) (hp : s.phase c ≠ .outside) : .called c ∈ s.history :=
  (mem_own.1 ((r.life c).mem_called hp)).1

end State

namespace Run

variable {r : Run} {i j k : Nat} {c d : CallId} {t u : AccessToken}

/-- At its step `j` call `c` reads the token `t`, off the cache or off its own exchange. -/
def Reads (r : Run) (c : CallId) (t : AccessToken) (j : Nat) : Prop :=
  (r.state (j + 1)).history = .hit c t :: (r.state j).history ∨
    (r.state (j + 1)).history = .ended c (.token t) :: (r.state j).history

/-- The tokens that exchanges have given by moment `i`, the latest first. -/
def given (r : Run) (i : Nat) : List AccessToken := tokens (r.state 0).cached (r.state i).history

theorem latest (new : (r.state 0).IsNew) (i : Nat) : State.Latest (r.state 0).cached (r.state i) :=
  keep (fun _ _ hr h st => h.step hr st) (Nat.zero_le i) new.latest

theorem Reads.step (h : r.Reads c t j) : (r.state j).Step (r.state (j + 1)) := by
  refine (r.next j).resolve_right fun same => ?_
  rw [Reads, same] at h
  rcases h with h | h <;> exact absurd h.symm (List.cons_ne_self _ _)

theorem Reads.phase (h : r.Reads c t j) : (r.state j).phase c ≠ .outside ∧ (r.state j).phase c ≠ .done := by
  have st := h.step
  rcases h with h | h
  · obtain ⟨-, hp | ⟨n, hp⟩⟩ := st.finds h <;> rw [hp] <;> exact ⟨nofun, nofun⟩
  · rw [show (r.state j).phase c = .exchanging from st.finds h]
    exact ⟨nofun, nofun⟩

theorem Reads.head_given (h : r.Reads c t j) (new : (r.state 0).IsNew) : (r.given (j + 1)).head? = some t := by
  have st := h.step
  rcases h with h | h <;> rw [given, h]
  · exact (latest new j).of_fresh (r.reachable j) (st.finds h).1
  · rfl

theorem Reads.outlives (h : r.Reads c t j) (unstarted : .started c ∉ (r.state (j + 1)).history) :
    t.expiresWithin (r.state j).now (r.state j).margin = false := by
  have st := h.step
  rcases h with h | h
  · exact (State.fresh_eq_some_iff.1 (st.finds h).1).2
  · have started : .started c ∈ (r.state j).history := ((r.reachable j).inFlight_iff.2 (st.finds h)).1
    exact absurd (st.mem_history started) unstarted

theorem Reads.called (h : r.Reads c t j) : .called c ∈ (r.state j).history :=
  (r.reachable j).mem_called h.phase.1

theorem Reads.lt_of_returned {o : Outcome} (h : r.Reads c t j) (ret : .returned c o ∈ (r.state i).history) : j < i := by
  refine Nat.lt_of_not_le fun hij => h.phase.2 ?_
  exact ((r.reachable j).life c).of_returned (mem_own.2 ⟨mem_history hij ret, rfl⟩) |>.1

theorem exists_reads (new : (r.state 0).IsNew) (ret : .returned c (.token t) ∈ (r.state i).history) :
    ∃ j, j < i ∧ r.Reads c t j := by
  obtain ⟨-, l, settled, hl⟩ := ((r.reachable i).life c).of_returned (mem_own.2 ⟨ret, rfl⟩)
  have up {e : Event} (he : e ∈ l) : e ∈ (r.state i).history := by
    refine (mem_own (c := c)).1 ?_ |>.1
    rw [hl]
    exact List.mem_cons_of_mem _ he
  rcases settled.token with hit | ended
  · obtain ⟨j, hj, -, hh⟩ := exists_step_of_mem (up hit) new.history_eq
    exact ⟨j, hj, .inl hh⟩
  · obtain ⟨j, hj, -, hh⟩ := exists_step_of_mem (up ended) new.history_eq
    exact ⟨j, hj, .inr hh⟩

theorem length_given_le (hij : i ≤ j) : (r.given i).length ≤ (r.given j).length :=
  length_tokens_le (suffix_history hij)

/-- Whatever a call returns it has read before, the latest token then; unless the call has run an exchange, the
token did not expire within the margin. The cache is written only by calls whose exchange has given a token, so one
that fails or is given up leaves it alone. And no call that is made after another has returned reads an older
token: the tokens that had been given are as many or more. -/
theorem tokens_go_forward (r : Run) (new : (r.state 0).IsNew) :
    (∀ i c t, .returned c (.token t) ∈ (r.state i).history → ∃ j, j < i ∧ r.Reads c t j) ∧
    (∀ j c t, r.Reads c t j → (r.given (j + 1)).head? = some t ∧
      (.started c ∉ (r.state (j + 1)).history → t.expiresWithin (r.state j).now (r.state j).margin = false)) ∧
    (∀ j, (r.state (j + 1)).cached ≠ (r.state j).cached → ∃ c t, (r.state j).phase c = .ended (.token t) ∧
      (r.state j).next c = some (r.state (j + 1)) ∧ (r.state (j + 1)).cached = some t) ∧
    ∀ i c d t u j k, .returned c (.token t) ∈ (r.state i).history → .called d ∉ (r.state i).history →
      r.Reads c t j → r.Reads d u k → (r.given (j + 1)).length ≤ (r.given (k + 1)).length := by
  refine ⟨fun i c t => exists_reads new, fun j c t h => ⟨h.head_given new, h.outlives⟩, fun j written => ?_,
    fun i c d t u j k ret uncalled hc hd => length_given_le (Nat.succ_le_succ ?_)⟩
  · obtain st | same := r.next j
    · obtain ⟨c, m⟩ | ⟨d, he⟩ := st.move
      · rcases m.cached with same | ⟨t, hp, hs⟩
        · exact absurd same written
        · exact ⟨c, t, hp, by rw [hs]; exact State.next_ended_token hp, by rw [hs]; rfl⟩
      · exact absurd (by rw [he]; rfl) written
    · exact absurd (by rw [same]) written
  · have before : j < i := hc.lt_of_returned ret
    have after : ¬ k ≤ i := fun hk => uncalled (mem_history hk hd.called)
    omega

/-- Call 0 has returned a token that expires; call 1 is made after that and runs an exchange of its own. -/
theorem tokens_go_forward_after_expiry :
    let a : AccessToken := ⟨"a", some ⟨5⟩⟩
    let acts := .call 0 :: Act.steps 0 6 ++ .finish 0 (.token a) :: Act.steps 0 6 ++ .elapse ⟨10⟩ ::
      .call 1 :: Act.steps 1 6 ++ .finish 1 (.token (.bearer "b")) :: Act.steps 1 6
    let r := Run.ofActs (.initial ⟨0⟩ ⟨0⟩) acts
    (r.state 0).IsNew ∧ .returned 0 (.token a) ∈ (r.state 14).history ∧ .called 1 ∉ (r.state 14).history ∧
      ∃ j k, r.Reads 0 a j ∧ r.Reads 1 (.bearer "b") k ∧ (r.given (j + 1)).head? = some a ∧
        (r.given (j + 1)).length ≤ (r.given (k + 1)).length := by
  intro a acts r
  have new : (r.state 0).IsNew := .initial ⟨0⟩ ⟨0⟩
  have ret : .returned 0 (.token a) ∈ (r.state 14).history := by decide
  have ret' : .returned 1 (.token (.bearer "b")) ∈ (r.state 29).history := by decide
  have uncalled : .called 1 ∉ (r.state 14).history := by decide
  obtain ⟨exists_reads, latest, -, forward⟩ := tokens_go_forward r new
  obtain ⟨j, -, hj⟩ := exists_reads 14 0 a ret
  obtain ⟨k, -, hk⟩ := exists_reads 29 1 _ ret'
  exact ⟨new, ret, uncalled, j, k, hj, hk, (latest j 0 a hj).1, forward 14 0 1 a _ j k ret uncalled hj hk⟩

end Run

end IdentityClient.Refreshing
