import IdentityClient.Proofs.Credentials.Instance

/-!
# Reserved instances

Who finds a service ready reserves the instance that it holds, until the service is called or replaced by its clone. If
every call is made to a service that is reserved (`keepsContract`), its request is sent on the very instance that was
found ready, which serves no other request; and the service is left with an instance that nobody has found ready.
-/

namespace IdentityClient.Credentials

variable {ρ : Type}

/-- Service `v` has been found ready, and neither called nor replaced since. -/
def isReserved (v : ServiceId) : List (Action ρ) → Bool
  | [] => false
  | .ready u :: as => u = v || isReserved v as
  | .replace u :: as | .call _ u _ :: as => u ≠ v && isReserved v as
  | .clone _ :: as | .begin _ :: as | .fetched _ _ :: as | .expire _ :: as | .answer _ _ :: as | .drop _ :: as =>
    isReserved v as

/-- Calls are made to reserved services only. -/
def keepsContract : List (Action ρ) → Bool
  | [] => true
  | .call _ v _ :: as => isReserved v as && keepsContract as
  | .ready _ :: as | .replace _ :: as | .clone _ :: as | .begin _ :: as | .fetched _ _ :: as | .expire _ :: as
  | .answer _ _ :: as | .drop _ :: as => keepsContract as

/-- The instance with which service `v` was found ready last. -/
def latestReady (v : ServiceId) : List (Event ρ) → Option InstanceId
  | [] => none
  | .ready u i :: h => if u = v then some i else latestReady v h
  | .called _ _ _ _ :: h | .asked _ :: h | .sent _ _ _ _ :: h | .ended _ _ :: h | .dropped _ :: h => latestReady v h

variable {cr : CallCredentials} {s s' : State ρ} {a : Action ρ} {as : List (Action ρ)} {es h : List (Event ρ)}
  {c d : CallId} {v : ServiceId} {i : InstanceId} {r : Request} {p : Phase ρ} {w : Bool} {e : Event ρ}

theorem keepsContract_of_cons (h : keepsContract (a :: as) = true) : keepsContract as = true := by
  cases a with
  | call => exact (Bool.and_eq_true_iff.1 h).2
  | ready | clone | replace | begin | fetched | expire | answer | drop => exact h

/-- Call `c` took the instance that was found ready last, by the service that it was made to. -/
def TookReady (h : List (Event ρ)) (c : CallId) (i : InstanceId) : Prop :=
  ∃ v r later earlier, h = later ++ .called c v i r :: earlier ∧ latestReady v earlier = some i

theorem TookReady.cons (t : TookReady h c i) (e : Event ρ) : TookReady (e :: h) c i := by
  obtain ⟨v, r, later, earlier, rfl, latest⟩ := t
  exact ⟨v, r, e :: later, earlier, rfl, latest⟩

namespace State

theorem mem_of_mem_note {e' : Event ρ} (mem : e' ∈ (s.note e).history) (h : e' ≠ e) : e' ∈ s.history :=
  List.mem_of_ne_of_mem h mem

/-- What holds while calls are made to reserved services only. -/
structure Kept (s : State ρ) (as : List (Action ρ)) : Prop where
  held : ∀ v, isReserved v as = true → v < s.services
  latest : ∀ v, isReserved v as = true → latestReady v s.history = some (s.holds v)
  ready : ∀ v, isReserved v as = true → s.isReady (s.holds v) = true
  waiting : ∀ c i, (s.phase c).taken? = some i → s.isReady i = true
  took : ∀ c i, s.Took c i → TookReady s.history c i
  sent : ∀ c i r w, .sent c i r w ∈ s.history → w = true

namespace Kept

theorem goto (k : s.Kept as) (c : CallId) (h : ∀ i, p.taken? = some i → s.isReady i = true) : (s.goto c p).Kept as := by
  refine ⟨k.held, k.latest, k.ready, ?_, k.took, k.sent⟩
  intro d i hi
  by_cases hd : d = c
  · rw [hd, goto_phase_self] at hi
    exact h i hi
  · rw [goto_phase_of_ne s p hd] at hi
    exact k.waiting d i hi

theorem write (k : s.Kept as) (rec : LogRecord) : (s.write rec).Kept as :=
  ⟨k.held, k.latest, k.ready, k.waiting, k.took, k.sent⟩

/-- An event that is about no instance changes nothing. -/
theorem note (k : s.Kept as) (h : e.on? = none) : (s.note e).Kept as := by
  have old {e' : Event ρ} {i : InstanceId} (mem : e' ∈ (s.note e).history) (hi : e'.on? = some i) :
      e' ∈ s.history := by
    refine mem_of_mem_note mem fun he => ?_
    rw [he, h] at hi
    cases hi
  have latest_eq (v : ServiceId) : latestReady v (s.note e).history = latestReady v s.history := by
    cases e with
    | ready | called | sent => cases h
    | asked | ended | dropped => rfl
  refine ⟨k.held, fun v hv => (latest_eq v).trans (k.latest v hv), k.ready, k.waiting, ?_, ?_⟩
  · rintro c i ⟨v, r, mem⟩
    exact (k.took c i ⟨v, r, old mem rfl⟩).cons e
  · intro c i r w mem
    exact k.sent c i r w (old mem rfl)

theorem readied (k : s.Kept as) (hv : v < s.services) : (s.ready v).Kept (.ready v :: as) := by
  have isReady_mono {i : InstanceId} (hi : s.isReady i = true) : (s.ready v).isReady i = true := by
    simp [State.ready, State.mark, State.note, hi]
  have reserved {u : ServiceId} (hu : isReserved u (.ready v :: as) = true) : v = u ∨ isReserved u as = true := by
    simpa [isReserved] using hu
  refine ⟨?_, ?_, ?_, ?_, ?_, ?_⟩
  · intro u hu
    rcases reserved hu with rfl | hu
    · exact hv
    · exact k.held u hu
  · intro u hu
    by_cases huv : v = u
    · subst huv
      exact if_pos rfl
    · exact (if_neg huv).trans (k.latest u ((reserved hu).resolve_left huv))
  · intro u hu
    by_cases huv : v = u
    · subst huv
      exact if_pos rfl
    · exact isReady_mono (k.ready u ((reserved hu).resolve_left huv))
  · intro c i hi
    exact isReady_mono (k.waiting c i hi)
  · rintro c i ⟨u, r, mem⟩
    exact (k.took c i ⟨u, r, mem_of_mem_note mem (by simp)⟩).cons _
  · intro c i r w mem
    exact k.sent c i r w (mem_of_mem_note mem (by simp))

/-- A fresh instance goes to a service that is reserved no more. -/
theorem refresh (k : s.Kept as) {n : Nat} {as' : List (Action ρ)} (v : ServiceId) (more : s.services ≤ n)
    (reserved : ∀ u, isReserved u as' = true → u ≠ v ∧ isReserved u as = true) :
    ({ s with services := n }.refresh v).Kept as' := by
  have holds_of_ne {u : ServiceId} (hu : u ≠ v) : ({ s with services := n }.refresh v).holds u = s.holds u := if_neg hu
  refine ⟨?_, ?_, ?_, k.waiting, k.took, k.sent⟩
  · intro u hu
    exact Nat.lt_of_lt_of_le (k.held u (reserved u hu).2) more
  · intro u hu
    obtain ⟨hne, hu⟩ := reserved u hu
    rw [holds_of_ne hne]
    exact k.latest u hu
  · intro u hu
    obtain ⟨hne, hu⟩ := reserved u hu
    rw [holds_of_ne hne]
    exact k.ready u hu

theorem called (k : s.Kept as) (hv : isReserved v as = true) :
    (((s.refresh v).goto c (.created (s.holds v) r)).note (.called c v (s.holds v) r)).Kept (.call c v r :: as) := by
  have reserved (u : ServiceId) (hu : isReserved u (.call c v r :: as) = true) : u ≠ v ∧ isReserved u as = true := by
    obtain ⟨hne, hu⟩ : v ≠ u ∧ isReserved u as = true := by simpa [isReserved] using hu
    exact ⟨hne.symm, hu⟩
  have k' : ((s.refresh v).goto c (.created (s.holds v) r)).Kept (.call c v r :: as) :=
    (k.refresh (n := s.services) v (Nat.le_refl _) reserved).goto c fun i hi => Option.some.inj hi ▸ k.ready v hv
  refine ⟨k'.held, k'.latest, k'.ready, k'.waiting, ?_, ?_⟩
  · rintro d i ⟨u, r', mem⟩
    rcases List.mem_cons.1 mem with heq | mem
    · cases heq
      exact ⟨v, r, [], s.history, rfl, k.latest v hv⟩
    · exact (k.took d i ⟨u, r', mem⟩).cons _
  · intro d i r' w mem
    exact k.sent d i r' w (mem_of_mem_note mem (by simp))

theorem forward (k : s.Kept as) (apart : s.Apart) (took : ∀ d j, (s.phase d).taken? = some j → s.Took d j)
    (hc : (s.phase c).taken? = some i) (r : Request) : (s.forward c i r).Kept as := by
  -- The instance is nobody else's, so what others have reserved stays ready.
  have isReady_of_ne {j : InstanceId} (hj : j ≠ i) : (s.forward c i r).isReady j = s.isReady j := if_neg hj
  refine ⟨k.held, k.latest, ?_, ?_, ?_, ?_⟩
  · intro v hv
    exact (isReady_of_ne (apart.taken_free c i (took c i hc) v (k.held v hv))).trans (k.ready v hv)
  · intro d j hj
    by_cases hd : d = c
    · rw [hd] at hj
      simp [State.forward, State.goto, State.note, Phase.taken?] at hj
    · have hj : (s.phase d).taken? = some j := goto_phase_of_ne (s.mark i false) (.sent i) hd ▸ hj
      have hne : j ≠ i := fun hji => hd (apart.taken_once d c i (hji ▸ took d j hj) (took c i hc))
      exact (isReady_of_ne hne).trans (k.waiting d j hj)
  · rintro d j ⟨u, r', mem⟩
    exact (k.took d j ⟨u, r', mem_of_mem_note mem (by simp)⟩).cons _
  · intro d j r' w mem
    rcases List.mem_cons.1 mem with heq | mem
    · cases heq
      exact k.waiting c i hc
    · exact k.sent d j r' w mem

/-- What is done to calls under way reserves nothing and frees nothing. -/
theorem act (k : s.Kept as) (h : ∀ v, isReserved v (a :: as) = isReserved v as) : s.Kept (a :: as) := by
  refine ⟨fun v hv => k.held v ?_, fun v hv => k.latest v ?_, fun v hv => k.ready v ?_, k.waiting, k.took, k.sent⟩ <;>
    rwa [← h v]

end Kept

theorem Move.kept (m : Move s a s') (k : s.Kept as) (apart : s.Apart)
    (took : ∀ c i, (s.phase c).taken? = some i → s.Took c i) (keeps : keepsContract (a :: as) = true) :
    s'.Kept (a :: as) := by
  have reject {c : CallId} {r : Request} {e : CredentialError} : (s.reject c r e).Kept as :=
    ((k.write _).goto (p := .done) c nofun).note rfl
  cases m with
  | ready hv => exact k.readied hv
  | clone hv => exact k.refresh s.services (Nat.le_succ _) fun u hu => ⟨Nat.ne_of_lt (k.held u hu), hu⟩
  | @replace v hv =>
    refine k.refresh (n := s.services) v (Nat.le_refl _) fun u hu => ?_
    obtain ⟨hne, hu⟩ : v ≠ u ∧ isReserved u as = true := by simpa [isReserved] using hu
    exact ⟨hne.symm, hu⟩
  | call => exact k.called (Bool.and_eq_true_iff.1 keeps).1
  | refuse | fail | expire => exact reject.act fun _ => rfl
  | @ask c i r hp =>
    have ready (j : InstanceId) (hj : Phase.taken? (ρ := ρ) (.fetching i r) = some j) : s.isReady j = true :=
      k.waiting c j (by rw [hp]; exact hj)
    exact ((k.goto c ready).note rfl).act fun _ => rfl
  | @pass c i r hp => exact (k.forward apart took (by rw [hp]; rfl) r).act fun _ => rfl
  | @attach c i r o x hp => exact (k.forward apart took (by rw [hp]; rfl) _).act fun _ => rfl
  | answer | drop => exact ((k.goto (p := .done) _ nofun).note rfl).act fun _ => rfl

/-- A call leaves its service with an instance that no other service holds, that nothing has happened to, and that
does not count as ready. -/
theorem Move.leaves_fresh (m : Move s (.call c v r) s') (apart : s.Apart) :
    s'.isReady (s'.holds v) = false ∧ (∀ e ∈ s'.history, e.on? ≠ some (s'.holds v)) ∧
      ∀ u < s'.services, s'.holds u = s'.holds v → u = v := by
  cases m with
  | call hv hp =>
    have fresh : (((s.refresh v).goto c (.created (s.holds v) r)).note (.called c v (s.holds v) r)).holds v
        = s.instances := if_pos rfl
    rw [fresh]
    refine ⟨?_, ?_, ?_⟩
    · exact Bool.eq_false_iff.2 fun ready => Nat.lt_irrefl _ (apart.ready_known _ ready)
    · intro e he hi
      rcases List.mem_cons.1 he with rfl | he
      · exact Nat.ne_of_lt (apart.known v hv) (Option.some.inj hi)
      · exact Nat.lt_irrefl _ (apart.seen e he _ hi)
    · intro u hu heq
      by_cases huv : u = v
      · exact huv
      · exact absurd ((if_neg huv).symm.trans heq) (Nat.ne_of_lt (apart.known u hu))

end State

theorem Fetch.not_dropped {m : Except CredentialError (Option HeaderValue)} (f : Fetch cr c v i r m as es) :
    .dropped d ∉ es := by
  cases f <;> simp

namespace Life

theorem not_dropped (l : Life cr c p as es) (open_ : p.isOpen) : .dropped c ∉ es := by
  cases l with
  | outside | rejected | answered | dropped => cases open_
  | created | fetching => simp
  | sent _ f => simp [f.not_dropped]

/-- Nothing happens to a call that has been given up. -/
theorem of_dropped {later earlier : List (Event ρ)} (l : Life cr c p as (later ++ .dropped c :: earlier)) :
    later = [] := by
  generalize hes : later ++ .dropped c :: earlier = es at l
  have mem : .dropped c ∈ es := hes ▸ List.mem_append_right _ List.mem_cons_self
  cases l with
  | outside | created | fetching => simp at mem
  | sent _ f | rejected f | answered _ _ f => simp [f.not_dropped] at mem
  | @dropped p as es l open_ =>
    rcases List.append_eq_cons_iff.1 hes with ⟨nil, -⟩ | ⟨later', -, tail⟩
    · exact nil
    · refine absurd ?_ (l.not_dropped open_)
      rw [tail]
      exact List.mem_append_right _ List.mem_cons_self

/-- Nothing is sent for a call that has been rejected. -/
theorem unsent_of_rejected {x : CredentialError} (l : Life cr c p as es) (h : .ended c (.rejected x) ∈ es) :
    .sent c i r w ∉ es := by
  obtain ⟨v, j, r₀, m, as', es', f, ⟨e, -, -, -, rfl⟩ | ⟨o, u, y, -, answered, -⟩⟩ := l.of_ended h
  · simp [f.not_sent]
  · cases answered

end Life

namespace Run

theorem kept (run : Run cr as s) (keeps : keepsContract as = true) : s.Kept as := by
  induction run with
  | initial => exact ⟨nofun, nofun, nofun, nofun, nofun, nofun⟩
  | step run m ih => exact m.kept (ih (keepsContract_of_cons keeps)) run.apart (fun _ _ h => (run.took_of_taken h).1) keeps

theorem unsent_of_rejected {x : CredentialError} (run : Run cr as s) (h : .ended c (.rejected x) ∈ s.history) :
    .sent c i r w ∉ s.history := by
  intro sent
  exact (run.life c).unsent_of_rejected (mem_ownBy.2 ⟨h, rfl⟩) (mem_ownBy.2 ⟨sent, rfl⟩)

theorem unsent_of_dropped {later earlier : List (Event ρ)} (run : Run cr as s)
    (h : s.history = later ++ .dropped c :: earlier) (unsent : ∀ j r w, .sent c j r w ∉ earlier) :
    .sent c i r w ∉ s.history := by
  intro sent
  have sent' : .sent c i r w ∈ eventsOf c s.history := mem_ownBy.2 ⟨sent, rfl⟩
  have own : eventsOf c s.history = eventsOf c later ++ .dropped c :: eventsOf c earlier := by
    simp [h, ownBy, Event.call?]
  have life := run.life c
  rw [own] at life
  rw [own, life.of_dropped] at sent'
  exact unsent i r w (mem_ownBy.1 (by simpa using sent')).1

/-- An instance that was taken by a call which has sent nothing has not been used. -/
theorem unused (run : Run cr as s) (took : s.Took c i) (unsent : ∀ r w, .sent c i r w ∉ s.history) : i ∉ s.used := by
  intro used
  obtain ⟨d, r, w, sent⟩ := State.mem_used.1 used
  obtain rfl := run.apart.taken_once c d i took (run.took_of_sent sent)
  exact unsent r w sent

/-- Where calls are made to reserved services only, every request goes to the instance that its service was found ready
with last, and to a ready one. No instance serves two requests, and that of a call whose fetch failed or which was given
up before it sent anything serves none. A call leaves a fresh instance in its service. -/
theorem calls_use_ready_instance (run : Run cr as s) (keeps : keepsContract as = true) :
    (∀ c i r w, .sent c i r w ∈ s.history → TookReady s.history c i ∧ w = true) ∧
    s.used.Nodup ∧
    (∀ c i, s.Took c i →
      ((∃ x, .ended c (.rejected x) ∈ s.history) ∨ ∃ later earlier, s.history = later ++ .dropped c :: earlier ∧
        ∀ j r w, .sent c j r w ∉ earlier) → i ∉ s.used) ∧
    ∀ c v r s', s.Move (.call c v r) s' →
      s'.isReady (s'.holds v) = false ∧ (∀ e ∈ s'.history, e.on? ≠ some (s'.holds v)) ∧
        ∀ u < s'.services, s'.holds u = s'.holds v → u = v := by
  have kept := run.kept keeps
  refine ⟨?_, run.used_nodup, ?_, ?_⟩
  · intro c i r w sent
    exact ⟨kept.took c i (run.took_of_sent sent), kept.sent c i r w sent⟩
  · rintro c i took (⟨x, rejected⟩ | ⟨later, earlier, split, unsent⟩)
    · exact run.unused took fun r w => run.unsent_of_rejected rejected
    · exact run.unused took fun r w => run.unsent_of_dropped split unsent
  · intro c v r s' m
    exact m.leaves_fresh run.apart

/-- Two calls overlap, and the first is given up while it waits for the token. -/
theorem calls_use_ready_instance_when_overlapping :
    let r : Request := ⟨"POST", ⟨some .https, some "id.example.com", ⟨"/svc/Method", none⟩⟩, [], []⟩
    let as : List (Action Nat) :=
      [.fetched 1 (.token (.bearer "tok")), .drop 0, .begin 1, .call 1 0 r, .ready 0, .begin 0, .call 0 0 r, .ready 0]
    ∃ s, Run ⟨true, true⟩ as s ∧ keepsContract as = true ∧ TookReady s.history 1 1 ∧ s.used = [1] ∧ 0 ∉ s.used := by
  intro r as
  obtain ⟨s, run, history⟩ : ∃ s : State Nat, Run ⟨true, true⟩ as s ∧ s.history =
      [.sent 1 1 (r.authorize ⟨(AccessToken.bearer "tok").bearerBytes, true⟩) true, .dropped 0, .asked 1,
        .called 1 0 1 r, .ready 0 1, .asked 0, .called 0 0 0 r, .ready 0 0] := by
    have first := Run.first_call (ρ := Nat) ⟨true, true⟩ r
    have second := ((first.step (.ask (c := 0) (i := 0) (r := r) rfl rfl rfl)).step (.ready (v := 0) Nat.one_pos)).step
      (.call (c := 1) (v := 0) (r := r) Nat.one_pos rfl)
    have given_up := (second.step (.ask (c := 1) (i := 1) (r := r) rfl rfl rfl)).step (.drop (c := 0) rfl)
    exact ⟨_, given_up.step (.attach (c := 1) (i := 1) (r := r) rfl rfl), rfl⟩
  obtain ⟨sent, -, unused, -⟩ := calls_use_ready_instance run rfl
  have used : s.used = [1] := by
    rw [State.used, history]
    rfl
  refine ⟨s, run, rfl, (sent 1 1 _ true (history ▸ List.mem_cons_self)).1, used, unused 0 0 ?_ (.inr ?_)⟩
  · exact ⟨0, r, by simp [history]⟩
  · exact ⟨[_], _, history, by simp⟩

end Run

end IdentityClient.Credentials
