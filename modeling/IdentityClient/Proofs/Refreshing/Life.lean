import IdentityClient.Proofs.Refreshing.Move

/-!
# The life of a call

`Life c p l`: `l` is what can have happened to call `c` when it stands in phase `p`. Each call of a source has
lived like that (`Reachable.life`); what a call does at most once, and what excludes what, is read off the
lists.
-/

namespace IdentityClient.Refreshing

/-- The events of call `c`. -/
def own (c : CallId) (h : List Event) : List Event := h.filter (·.call = c)

theorem mem_own {c : CallId} {h : List Event} {e : Event} : e ∈ own c h ↔ e ∈ h ∧ e.call = c := by
  simp [own]

theorem own_cons_self {c : CallId} {e : Event} (h : List Event) (he : e.call = c) :
    own c (e :: h) = e :: own c h := by
  simp [own, he]

theorem own_cons_of_ne {c : CallId} {e : Event} (h : List Event) (he : e.call ≠ c) :
    own c (e :: h) = own c h := by
  simp [own, he]

/-- Its exchange has been started and is not counted. -/
def Phase.isUnderWay : Phase → Bool
  | .exchanging | .ended _ | .stored _ | .cleared _ | .warned _ | .written _ => true
  | _ => false

/-- Call `c` has read `n` off the counter, and may have queued since. -/
inductive Counted (c : CallId) (n : Nat) : List Event → Prop
  | direct : Counted c n [.counted c n, .called c]
  | queued : Counted c n [.queued c, .counted c n, .called c]

/-- Call `c` has come to the outcome `o`. -/
inductive Settled (c : CallId) : Outcome → List Event → Prop
  | hit (t : AccessToken) : Settled c (.token t) [.hit c t, .called c]
  | lateHit {n : Nat} {l : List Event} (t : AccessToken) : Counted c n l →
      Settled c (.token t) (.hit c t :: l)
  | relayed {n : Nat} {l : List Event} (reason : String) : Counted c n l →
      Settled c (.failed (.refreshFailed reason)) (.relayed c reason :: l)
  | recorded {n : Nat} {l : List Event} (o : Outcome) : Counted c n l →
      Settled c o (.recorded c o :: .ended c o :: .started c :: l)

/-- Call `c` can be given up. -/
inductive Pending (c : CallId) : List Event → Prop
  | called : Pending c [.called c]
  | counted {n : Nat} {l : List Event} : Counted c n l → Pending c l
  | started {n : Nat} {l : List Event} : Counted c n l → Pending c (.started c :: l)

inductive Life (c : CallId) : Phase → List Event → Prop
  | outside : Life c .outside []
  | entered : Life c .entered [.called c]
  | missed : Life c .missed [.called c]
  | asking (n : Nat) : Life c (.asking n) [.counted c n, .called c]
  | queued {n : Nat} {l : List Event} : Counted c n l → Life c (.queued n) l
  | rechecking {n : Nat} {l : List Event} : Counted c n l → Life c (.rechecking n) l
  | comparing {n : Nat} {l : List Event} : Counted c n l → Life c (.comparing n) l
  | consulting {n : Nat} {l : List Event} : Counted c n l → Life c .consulting l
  | starting {n : Nat} {l : List Event} : Counted c n l → Life c .starting l
  | exchanging {n : Nat} {l : List Event} : Counted c n l → Life c .exchanging (.started c :: l)
  | ended {n : Nat} {l : List Event} (o : Outcome) : Counted c n l →
      Life c (.ended o) (.ended c o :: .started c :: l)
  | stored {n : Nat} {l : List Event} (t : AccessToken) : Counted c n l →
      Life c (.stored t) (.ended c (.token t) :: .started c :: l)
  | cleared {n : Nat} {l : List Event} (t : AccessToken) : Counted c n l →
      Life c (.cleared t) (.ended c (.token t) :: .started c :: l)
  | warned {n : Nat} {l : List Event} (e : TokenError) : Counted c n l →
      Life c (.warned e) (.ended c (.failed e) :: .started c :: l)
  | written {n : Nat} {l : List Event} (o : Outcome) : Counted c n l →
      Life c (.written o) (.ended c o :: .started c :: l)
  | unlocking {o : Outcome} {l : List Event} : Settled c o l → Life c (.unlocking o) l
  | leaving {o : Outcome} {l : List Event} : Settled c o l → Life c (.leaving o) l
  | returned {o : Outcome} {l : List Event} : Settled c o l → Life c .done (.returned c o :: l)
  | dropped {l : List Event} : Pending c l → Life c .done (.dropped c :: l)

namespace State

variable {s s' : State} {c d : CallId}

theorem pending_of_canQuit {l : List Event} (h : Life c (s.phase c) l) (hq : (s.phase c).canQuit) :
    Pending c l := by
  revert h hq
  generalize s.phase c = p
  intro h hq
  cases h with
  | entered => exact .called
  | asking n => exact .counted .direct
  | queued h => exact .counted h
  | exchanging h => exact .started h
  | _ => cases hq

theorem life_goto {p p' : Phase} (h : Life c (s.phase c) (own c s.history)) (hp : s.phase c = p)
    (hp' : s'.phase c = p') (hh : s'.history = s.history) (step : ∀ l, Life c p l → Life c p' l) :
    Life c (s'.phase c) (own c s'.history) := by
  rw [hp', hh]
  exact step _ (hp ▸ h)

theorem life_note {p p' : Phase} {e : Event} (h : Life c (s.phase c) (own c s.history))
    (hp : s.phase c = p) (hp' : s'.phase c = p') (hh : s'.history = e :: s.history) (he : e.call = c)
    (step : ∀ l, Life c p l → Life c p' (e :: l)) : Life c (s'.phase c) (own c s'.history) := by
  rw [hp', hh, own_cons_self _ he]
  exact step _ (hp ▸ h)

theorem life_move_self (h : Life c (s.phase c) (own c s.history)) (m : Move s c s') :
    Life c (s'.phase c) (own c s'.history) := by
  cases m with
  | call hp => exact life_note h hp (if_pos rfl) rfl rfl fun _ h => by cases h; exact .entered
  | hit hp => exact life_note h hp (if_pos rfl) rfl rfl fun _ h => by cases h; exact .leaving (.hit _)
  | miss hp => exact life_goto h hp (if_pos rfl) rfl fun _ h => by cases h; exact .missed
  | count hp => exact life_note h hp (if_pos rfl) rfl rfl fun _ h => by cases h; exact .asking _
  | lock hp => exact life_goto h hp (if_pos rfl) rfl fun _ h => by cases h; exact .rechecking .direct
  | queue hp => exact life_note h hp (if_pos rfl) rfl rfl fun _ h => by cases h; exact .queued .queued
  | wake hp => exact life_goto h hp (if_pos rfl) rfl fun _ h => by cases h with | queued h => exact .rechecking h
  | lateHit hp =>
    exact life_note h hp (if_pos rfl) rfl rfl fun _ h => by
      cases h with | rechecking h => exact .unlocking (.lateHit _ h)
  | lateMiss hp =>
    exact life_goto h hp (if_pos rfl) rfl fun _ h => by cases h with | rechecking h => exact .comparing h
  | unchanged hp =>
    exact life_goto h hp (if_pos rfl) rfl fun _ h => by cases h with | comparing h => exact .starting h
  | changed hp =>
    exact life_goto h hp (if_pos rfl) rfl fun _ h => by cases h with | comparing h => exact .consulting h
  | relay hp =>
    exact life_note h hp (if_pos rfl) rfl rfl fun _ h => by
      cases h with | consulting h => exact .unlocking (.relayed _ h)
  | retry hp =>
    exact life_goto h hp (if_pos rfl) rfl fun _ h => by cases h with | consulting h => exact .starting h
  | start hp =>
    exact life_note h hp (if_pos rfl) rfl rfl fun _ h => by cases h with | starting h => exact .exchanging h
  | finish o hp =>
    exact life_note h hp (if_pos rfl) rfl rfl fun _ h => by cases h with | exchanging h => exact .ended o h
  | store hp => exact life_goto h hp (if_pos rfl) rfl fun _ h => by cases h with | ended _ h => exact .stored _ h
  | warn hp => exact life_goto h hp (if_pos rfl) rfl fun _ h => by cases h with | ended _ h => exact .warned _ h
  | clear hp => exact life_goto h hp (if_pos rfl) rfl fun _ h => by cases h with | stored _ h => exact .cleared _ h
  | tell hp => exact life_goto h hp (if_pos rfl) rfl fun _ h => by cases h with | cleared _ h => exact .written _ h
  | keep hp => exact life_goto h hp (if_pos rfl) rfl fun _ h => by cases h with | warned _ h => exact .written _ h
  | record hp =>
    exact life_note h hp (if_pos rfl) rfl rfl fun _ h => by
      cases h with | written _ h => exact .unlocking (.recorded _ h)
  | unlock hp =>
    refine life_goto h hp (if_pos rfl) (by rw [release_eq]; rfl) fun _ h => ?_
    cases h with | unlocking h => exact .leaving h
  | ret hp =>
    exact life_note h hp (if_pos rfl) rfl rfl fun _ h => by cases h with | leaving h => exact .returned h
  | quit hp =>
    obtain ⟨_, _, e⟩ := leave_eq s c
    exact life_note h rfl (if_pos rfl) (by rw [e]; rfl) rfl fun _ h => .dropped (pending_of_canQuit h hp)

theorem own_move_of_ne (m : Move s d s') (h : d ≠ c) : own c s'.history = own c s.history := by
  obtain hh | ⟨e, he, hh⟩ := m.history
  · rw [hh]
  · rw [hh, own_cons_of_ne _ (he ▸ h)]

theorem Reachable.life (r : Reachable s) (c : CallId) : Life c (s.phase c) (own c s.history) := by
  induction r with
  | initial => exact .outside
  | primed => exact .outside
  | step _ st ih =>
    obtain ⟨d, m⟩ | ⟨d, rfl⟩ := st.move
    · by_cases h : d = c
      · subst d
        exact life_move_self ih m
      · rw [own_move_of_ne m h, m.phase_of_ne (Ne.symm h)]
        exact ih
    · exact ih

end State

/-- Events from before a call comes to anything. -/
def Event.isEarly : Event → Bool
  | .called _ | .counted _ _ | .queued _ => true
  | _ => false

/-- The outcome that a call takes over from elsewhere: a token of the cache, or the failure of another's
exchange. -/
def Event.answer : Event → Option Outcome
  | .hit _ t => some (.token t)
  | .relayed _ reason => some (.failed (.refreshFailed reason))
  | _ => none

section
variable {c : CallId} {p : Phase} {n : Nat} {o : Outcome} {l : List Event} {e : Event}

theorem Counted.mem (h : Counted c n l) : .counted c n ∈ l := by
  cases h <;> simp

theorem Counted.mem_called (h : Counted c n l) : .called c ∈ l := by
  cases h <;> simp

theorem Counted.isEarly (h : Counted c n l) (he : e ∈ l) : e.isEarly = true := by
  cases h <;> simp only [List.mem_cons, List.not_mem_nil, or_false] at he
  · rcases he with rfl | rfl <;> rfl
  · rcases he with rfl | rfl | rfl <;> rfl

theorem Counted.not_mem (h : Counted c n l) (he : e.isEarly = false) : e ∉ l :=
  fun hm => by simp [h.isEarly hm] at he

theorem Counted.answer_eq_none (h : Counted c n l) (he : e ∈ l) : e.answer = none := by
  have := h.isEarly he
  cases e <;> first | rfl | cases this

/-- An outcome that a call takes over is what it comes to, and it starts no exchange. -/
theorem Settled.answer_eq (h : Settled c o l) (he : e ∈ l) (ha : e.answer ≠ none) :
    e.answer = some o ∧ .started c ∉ l := by
  cases h with
  | hit t =>
    simp only [List.mem_cons, List.not_mem_nil, or_false] at he
    rcases he with rfl | rfl
    · exact ⟨rfl, by simp⟩
    · exact absurd rfl ha
  | lateHit t h =>
    rcases List.mem_cons.1 he with rfl | he
    · exact ⟨rfl, by simpa using h.not_mem rfl⟩
    · exact absurd (h.answer_eq_none he) ha
  | relayed reason h =>
    rcases List.mem_cons.1 he with rfl | he
    · exact ⟨rfl, by simpa using h.not_mem rfl⟩
    · exact absurd (h.answer_eq_none he) ha
  | recorded o h =>
    simp only [List.mem_cons] at he
    rcases he with rfl | rfl | rfl | he
    iterate 3 exact absurd rfl ha
    exact absurd (h.answer_eq_none he) ha

theorem Settled.count_started (h : Settled c o l) : l.count (.started c) ≤ 1 := by
  cases h with
  | hit t => simp
  | lateHit t h => simp [List.count_eq_zero.2 (h.not_mem (e := .started c) rfl)]
  | relayed reason h => simp [List.count_eq_zero.2 (h.not_mem (e := .started c) rfl)]
  | recorded o h => simp [List.count_eq_zero.2 (h.not_mem (e := .started c) rfl)]

/-- A call that fails has run an exchange that failed, or has taken over a failure and run none. -/
theorem Settled.failed {f : TokenError} (h : Settled c (.failed f) l) :
    (.started c ∈ l ∧ .ended c (.failed f) ∈ l) ∨
      (.started c ∉ l ∧ ∃ reason, .relayed c reason ∈ l ∧ f = .refreshFailed reason) := by
  cases h with
  | relayed reason h => exact .inr ⟨by simpa using h.not_mem rfl, reason, by simp, rfl⟩
  | recorded o h => exact .inl ⟨by simp, by simp⟩

/-- A call that comes to a token has found it in the cache, or its exchange has given it. -/
theorem Settled.token {t : AccessToken} (h : Settled c (.token t) l) :
    .hit c t ∈ l ∨ .ended c (.token t) ∈ l := by
  cases h with
  | hit | lateHit => exact .inl (List.mem_cons_self ..)
  | recorded => exact .inr (by simp)

theorem Settled.mem_called (h : Settled c o l) : .called c ∈ l := by
  cases h with
  | hit => simp
  | lateHit _ h | relayed _ h | recorded _ h => simpa using h.mem_called

theorem Settled.ended_of_started (h : Settled c o l) (hs : .started c ∈ l) : ∃ o', .ended c o' ∈ l := by
  cases h with
  | hit t => simp at hs
  | lateHit t h => exact absurd (by simpa using hs) (h.not_mem (e := .started c) rfl)
  | relayed reason h => exact absurd (by simpa using hs) (h.not_mem (e := .started c) rfl)
  | recorded o h => exact ⟨o, by simp⟩

theorem Settled.recorded_of_started (h : Settled c o l) (hs : .started c ∈ l) : ∃ o', .recorded c o' ∈ l := by
  cases h with
  | hit t => simp at hs
  | lateHit t h => exact absurd (by simpa using hs) (h.not_mem (e := .started c) rfl)
  | relayed reason h => exact absurd (by simpa using hs) (h.not_mem (e := .started c) rfl)
  | recorded o h => exact ⟨o, List.mem_cons_self ..⟩

theorem Settled.not_mem_dropped (h : Settled c o l) : .dropped c ∉ l := by
  cases h with
  | hit t => simp
  | lateHit t h | relayed reason h | recorded o h => simpa using h.not_mem rfl

theorem Settled.not_mem_returned {o' : Outcome} (h : Settled c o l) : .returned c o' ∉ l := by
  cases h with
  | hit t => simp
  | lateHit t h => simpa using h.not_mem rfl
  | relayed reason h => simpa using h.not_mem rfl
  | recorded o h => simpa using h.not_mem rfl

theorem Pending.not_mem (h : Pending c l) (he : e.isEarly = false) (hs : e ≠ .started c) : e ∉ l := by
  cases h with
  | called => rintro hm; simp only [List.mem_singleton] at hm; subst hm; cases he
  | counted h => exact h.not_mem he
  | started h => simpa [hs] using h.not_mem he

theorem Pending.mem_called (h : Pending c l) : .called c ∈ l := by
  cases h with
  | called => simp
  | counted h | started h => simpa using h.mem_called

theorem Pending.answer_eq_none (h : Pending c l) (he : e ∈ l) : e.answer = none := by
  cases h with
  | called => rw [List.mem_singleton.1 he]; rfl
  | counted h => exact h.answer_eq_none he
  | started h =>
    rcases List.mem_cons.1 he with rfl | he
    · rfl
    · exact h.answer_eq_none he

theorem Pending.count_started (h : Pending c l) : l.count (.started c) ≤ 1 := by
  cases h with
  | called => simp
  | counted h => simp [List.count_eq_zero.2 (h.not_mem (e := .started c) rfl)]
  | started h => simp [List.count_eq_zero.2 (h.not_mem (e := .started c) rfl)]

namespace Life

/-- Whoever stands in a call has made it. -/
theorem mem_called (h : Life c p l) (hp : p ≠ .outside) : .called c ∈ l := by
  cases h with
  | outside => exact absurd rfl hp
  | entered | missed | asking => simp
  | queued h | rechecking h | comparing h | consulting h | starting h => exact h.mem_called
  | exchanging h | ended _ h | stored _ h | cleared _ h | warned _ h | written _ h => simpa using h.mem_called
  | unlocking h | leaving h => exact h.mem_called
  | returned h | dropped h => simpa using h.mem_called

theorem count_started (h : Life c p l) : l.count (.started c) ≤ 1 := by
  cases h with
  | outside | entered | missed | asking => simp
  | queued h | rechecking h | comparing h | consulting h | starting h =>
    simp [List.count_eq_zero.2 (h.not_mem (e := .started c) rfl)]
  | exchanging h | ended _ h | stored _ h | cleared _ h | warned _ h | written _ h =>
    simp [List.count_eq_zero.2 (h.not_mem (e := .started c) rfl)]
  | unlocking h | leaving h => exact h.count_started
  | returned h => simpa using h.count_started
  | dropped h => simpa using h.count_started

/-- An exchange is in flight from its start to its end, unless its call is given up. -/
theorem eq_exchanging_iff (h : Life c p l) :
    p = .exchanging ↔ .started c ∈ l ∧ (∀ o, .ended c o ∉ l) ∧ .dropped c ∉ l := by
  cases h with
  | outside | entered | missed | asking => simp
  | queued h | rechecking h | comparing h | consulting h | starting h =>
    simp [h.not_mem (e := .started c) rfl]
  | exchanging h => simpa using ⟨fun o => h.not_mem rfl, h.not_mem rfl⟩
  | ended | written | stored | cleared | warned =>
    exact ⟨nofun, fun ⟨_, he, _⟩ => absurd (List.mem_cons_self ..) (he _)⟩
  | unlocking h | leaving h =>
    refine ⟨nofun, fun ⟨hs, he, _⟩ => ?_⟩
    obtain ⟨o, ho⟩ := h.ended_of_started hs
    exact absurd ho (he o)
  | returned h =>
    refine ⟨nofun, fun ⟨hs, he, _⟩ => ?_⟩
    obtain ⟨o, ho⟩ := h.ended_of_started (by simpa using hs)
    exact absurd (List.mem_cons_of_mem _ ho) (he o)
  | dropped => exact ⟨nofun, fun ⟨_, _, hd⟩ => absurd (List.mem_cons_self ..) hd⟩

/-- Its exchange has been started and has neither been counted nor given up with the call. -/
theorem isUnderWay_iff (h : Life c p l) :
    p.isUnderWay = true ↔ .started c ∈ l ∧ (∀ o, .recorded c o ∉ l) ∧ .dropped c ∉ l := by
  cases h with
  | outside | entered | missed | asking => simp [Phase.isUnderWay]
  | queued h | rechecking h | comparing h | consulting h | starting h =>
    simp [Phase.isUnderWay, h.not_mem (e := .started c) rfl]
  | exchanging h | ended _ h | stored _ h | cleared _ h | warned _ h | written _ h =>
    simpa [Phase.isUnderWay] using ⟨fun o => h.not_mem rfl, h.not_mem rfl⟩
  | unlocking h | leaving h =>
    refine ⟨nofun, fun ⟨hs, hr, _⟩ => ?_⟩
    obtain ⟨o, ho⟩ := h.recorded_of_started hs
    exact absurd ho (hr o)
  | returned h =>
    refine ⟨nofun, fun ⟨hs, hr, _⟩ => ?_⟩
    obtain ⟨o, ho⟩ := h.recorded_of_started (by simpa using hs)
    exact absurd (List.mem_cons_of_mem _ ho) (hr o)
  | dropped => exact ⟨nofun, fun ⟨_, _, hd⟩ => absurd (List.mem_cons_self ..) hd⟩

/-- Of the calls that may be given up, those have started an exchange that wait for it. -/
theorem started_iff (h : Life c p l) (hq : p.canQuit) : .started c ∈ l ↔ p = .exchanging := by
  cases h with
  | entered | asking => simp
  | queued h => simpa using h.not_mem rfl
  | exchanging h => simp
  | _ => cases hq

theorem of_returned (h : Life c p l) (hr : .returned c o ∈ l) :
    p = .done ∧ ∃ k, Settled c o k ∧ l = .returned c o :: k := by
  cases h with
  | returned h =>
    rcases List.mem_cons.1 hr with he | hr
    · cases he; exact ⟨rfl, _, h, rfl⟩
    · exact absurd hr h.not_mem_returned
  | outside | entered | missed | asking => simp at hr
  | queued h | rechecking h | comparing h | consulting h | starting h => exact absurd hr (h.not_mem rfl)
  | exchanging h | ended _ h | stored _ h | cleared _ h | warned _ h | written _ h =>
    simp only [List.mem_cons, reduceCtorEq, false_or] at hr
    exact absurd hr (h.not_mem rfl)
  | unlocking h | leaving h => exact absurd hr h.not_mem_returned
  | dropped h =>
    simp at hr
    exact absurd hr (h.not_mem rfl (by simp))

theorem settled_of_answer (h : Life c p l) (he : e ∈ l) (ha : e.answer ≠ none) :
    ∃ o k, Settled c o k ∧ e ∈ k ∧
      (((p = .unlocking o ∨ p = .leaving o) ∧ l = k) ∨ (p = .done ∧ l = .returned c o :: k)) := by
  cases h with
  | unlocking h => exact ⟨_, _, h, he, .inl ⟨.inl rfl, rfl⟩⟩
  | leaving h => exact ⟨_, _, h, he, .inl ⟨.inr rfl, rfl⟩⟩
  | returned h =>
    rcases List.mem_cons.1 he with rfl | he
    · exact absurd rfl ha
    · exact ⟨_, _, h, he, .inr ⟨rfl, rfl⟩⟩
  | dropped h =>
    rcases List.mem_cons.1 he with rfl | he
    · exact absurd rfl ha
    · exact absurd (h.answer_eq_none he) ha
  | queued h | rechecking h | comparing h | consulting h | starting h => exact absurd (h.answer_eq_none he) ha
  | exchanging h =>
    rcases List.mem_cons.1 he with rfl | he
    · exact absurd rfl ha
    · exact absurd (h.answer_eq_none he) ha
  | ended _ h | stored _ h | cleared _ h | warned _ h | written _ h =>
    simp only [List.mem_cons] at he
    rcases he with rfl | rfl | he
    iterate 2 exact absurd rfl ha
    exact absurd (h.answer_eq_none he) ha
  | outside => cases he
  | entered | missed =>
    rw [List.mem_singleton.1 he] at ha
    exact absurd rfl ha
  | asking n => exact absurd (Counted.direct.answer_eq_none he) ha

/-- A call that has taken over an outcome starts no exchange; it returns that outcome and no other. -/
theorem of_answer (h : Life c p l) (he : e ∈ l) (ha : e.answer = some o) :
    .started c ∉ l ∧ (∀ o', .returned c o' ∈ l → o' = o) ∧
      (p = .unlocking o ∨ p = .leaving o ∨ (p = .done ∧ .returned c o ∈ l)) := by
  obtain ⟨o', k, hs, hk, h⟩ := h.settled_of_answer he (by rw [ha]; nofun)
  obtain ⟨ha', started⟩ := hs.answer_eq hk (by rw [ha]; nofun)
  obtain rfl : o = o' := Option.some.inj (ha.symm.trans ha')
  obtain ⟨hp, rfl⟩ | ⟨hp, rfl⟩ := h
  · exact ⟨started, fun _ hr => absurd hr hs.not_mem_returned, hp.imp_right .inl⟩
  · refine ⟨by simpa using started, fun o' hr => ?_, .inr (.inr ⟨hp, List.mem_cons_self ..⟩)⟩
    rcases List.mem_cons.1 hr with heq | hr
    · cases heq; rfl
    · exact absurd hr hs.not_mem_returned

end Life

end

end IdentityClient.Refreshing
