import IdentityClient.Proofs.Credentials.Life

/-!
# What calls carry

A call that goes to its end has asked the token source once, or not at all where it is refused or there is no source.
What its fetch has come to (`Fetched`) settles the rest (`Settled`): an error ends it with nothing sent, and otherwise
the inner service has been called once, with the caller's request, in which the bearer value is the only authorization
if there is a source.
-/

namespace IdentityClient

namespace Request

/-- `r'` is `r` with `h` in place of every authorization. -/
structure CarriesOnly (r : Request) (h : HeaderValue) (r' : Request) : Prop where
  method : r'.method = r.method
  uri : r'.uri = r.uri
  body : r'.body = r.body
  authorization : r'.headers.getAll Request.authorization = [h]
  others : ∀ name, name ≠ Request.authorization → r'.headers.getAll name = r.headers.getAll name

theorem carriesOnly_authorize (r : Request) (h : HeaderValue) : r.CarriesOnly h (r.authorize h) where
  method := rfl
  uri := rfl
  body := rfl
  authorization := r.getAll_authorize h
  others := fun _ hn => r.headers.getAll_insert_of_ne h hn

end Request

/-- The bytes of `Bearer` and the secret. -/
def AccessToken.bearerBytes (t : AccessToken) : Bytes := Utf8.encode ("Bearer " ++ t.secret)

/-- No control byte stands among the bytes but the tab. -/
def Printable (bs : Bytes) : Prop := ∀ b ∈ bs, b.toNat = 9 ∨ 32 ≤ b.toNat ∧ b.toNat ≠ 127

theorem printable_iff {bs : Bytes} : Printable bs ↔ bs.all HeaderValue.isAllowed := by
  have one (b : UInt8) : (b.toNat = 9 ∨ 32 ≤ b.toNat ∧ b.toNat ≠ 127) ↔ HeaderValue.isAllowed b = true := by
    simp [HeaderValue.isAllowed, UInt8.le_iff_toNat_le, ← UInt8.toNat_inj, or_comm]
  simp only [Printable, List.all_eq_true, one]

namespace CallCredentials

theorem bearer_of_printable {t : AccessToken} (h : Printable t.bearerBytes) : bearer t = .ok ⟨t.bearerBytes, true⟩ := by
  have value : HeaderValue.ofString? ("Bearer " ++ t.secret) = some ⟨t.bearerBytes, false⟩ :=
    HeaderValue.ofString?_eq_some_iff.2 ⟨printable_iff.1 h, rfl⟩
  simp [bearer, value]

theorem bearer_of_not_printable {t : AccessToken} (h : ¬ Printable t.bearerBytes) : bearer t = .error .headerValue := by
  have unfit : HeaderValue.ofString? ("Bearer " ++ t.secret) = none := by
    refine Option.eq_none_iff_forall_ne_some.2 fun v hv => h ?_
    exact printable_iff.2 (HeaderValue.ofString?_eq_some_iff.1 hv).1
  simp [bearer, unfit]

end CallCredentials

namespace Credentials

variable {ρ : Type} {cr : CallCredentials} {s : State ρ} {as : List (Action ρ)} {es h : List (Event ρ)} {c d : CallId}
  {v : ServiceId} {i : InstanceId} {r : Request} {p : Phase ρ} {res : Result ρ}

/-- `e` says that call `c` asks the token source. -/
def Event.isAsked (c : CallId) : Event ρ → Bool
  | .asked d => d = c
  | _ => false

/-- What the inner service is called with, where `e` says that it is called for call `c`. -/
def Event.sent? (c : CallId) : Event ρ → Option (Request × Bool)
  | .sent d _ r wasReady => if d = c then some (r, wasReady) else none
  | _ => none

/-- How often call `c` has asked the token source. -/
def State.asks (s : State ρ) (c : CallId) : Nat := s.history.countP (Event.isAsked c)

theorem State.asks_eq (s : State ρ) (c : CallId) : s.asks c = (eventsOf c s.history).countP (Event.isAsked c) := by
  have owned (e : Event ρ) : Event.isAsked c e = (Event.isAsked c e && decide (e.call? = some c)) := by
    cases e <;> simp [Event.isAsked, Event.call?]
  rw [eventsOf, ownBy, List.countP_filter]
  exact List.countP_congr fun e _ => by rw [← owned e]

theorem State.sent_eq (s : State ρ) (c : CallId) :
    s.sent c = ((eventsOf c s.history).filterMap (Event.sent? c)).reverse := by
  have owned (e : Event ρ) : (if e.call? = some c then Event.sent? c e else none) = Event.sent? c e := by
    cases e <;> simp [Event.sent?, Event.call?]
  rw [eventsOf, ownBy, List.filterMap_filter]
  simp only [decide_eq_true_eq, owned]
  rfl

/-- What fetching the header value for request `r` of call `c` has come to, by what has been done. -/
inductive Fetched (cr : CallCredentials) (as : List (Action ρ)) (c : CallId) (r : Request) :
    Except CredentialError (Option HeaderValue) → Prop
  | refused : cr.refuses r.uri = true → Fetched cr as c r (.error .insecureTransport)
  | unneeded : cr.refuses r.uri = false → cr.hasSource = false → Fetched cr as c r (.ok none)
  | bearer {t : AccessToken} : cr.refuses r.uri = false → cr.hasSource = true → .fetched c (.token t) ∈ as →
      Printable t.bearerBytes → Fetched cr as c r (.ok (some ⟨t.bearerBytes, true⟩))
  | unfit {t : AccessToken} : cr.refuses r.uri = false → cr.hasSource = true → .fetched c (.token t) ∈ as →
      ¬ Printable t.bearerBytes → Fetched cr as c r (.error .headerValue)
  | failed {e : TokenError} : cr.refuses r.uri = false → cr.hasSource = true → .fetched c (.failed e) ∈ as →
      Fetched cr as c r (.error (.token e))
  | late {d : Duration} : cr.refuses r.uri = false → cr.hasSource = true → .expire c ∈ as →
      Grpc.timeout r.headers = some d → Fetched cr as c r (.error .deadline)

/-- How call `c`, whose fetch has come to an error or a value, has ended, and what has been sent for it. -/
def Settled (s : State ρ) (as : List (Action ρ)) (c : CallId) (r : Request) (res : Result ρ) :
    Except CredentialError (Option HeaderValue) → Prop
  | .error e => s.sent c = [] ∧ res = .rejected e ∧
      e.status = ⟨if e = .deadline then .deadlineExceeded else .unauthenticated, e.message⟩
  | .ok none => (s.sent c).map (·.1) = [r] ∧ ∃ x, .answer c x ∈ as ∧ res = .answered x
  | .ok (some h) =>
    (∃ r', (s.sent c).map (·.1) = [r'] ∧ r.CarriesOnly h r') ∧ ∃ x, .answer c x ∈ as ∧ res = .answered x

namespace Fetch

variable {m : Except CredentialError (Option HeaderValue)}

theorem of_call {v' : ServiceId} {r' : Request} (f : Fetch cr c v i r m as es) (h : .call c v' r' ∈ as) :
    v' = v ∧ r' = r := by
  cases f <;> simpa using h

theorem not_ended (f : Fetch cr c v i r m as es) : .ended d res ∉ es := by
  cases f <;> simp

theorem sent_nil (f : Fetch cr c v i r m as es) : es.filterMap (Event.sent? d) = [] := by
  cases f <;> rfl

theorem asks_eq (f : Fetch cr c v i r m as es) :
    es.countP (Event.isAsked c) = if cr.hasSource && !cr.refuses r.uri then 1 else 0 := by
  cases f with
  | refused refused => simp [Event.isAsked, refused]
  | unneeded passes source => simp [Event.isAsked, source]
  | told _ passes source | late passes source => simp [Event.isAsked, passes, source]

theorem asks_le (f : Fetch cr c v i r m as es) : es.countP (Event.isAsked c) ≤ 1 := by
  rw [f.asks_eq]
  split <;> decide

theorem fetched {as' : List (Action ρ)} (f : Fetch cr c v i r m as es) (sub : as ⊆ as') : Fetched cr as' c r m := by
  cases f with
  | refused refused => exact .refused refused
  | unneeded passes source => exact .unneeded passes source
  | told o passes source =>
    have mem : .fetched c o ∈ as' := sub (List.mem_cons_self ..)
    cases o with
    | failed e => exact .failed passes source mem
    | token t =>
      by_cases fit : Printable t.bearerBytes
      · rw [CallCredentials.ofOutcome, CallCredentials.bearer_of_printable fit]
        exact .bearer passes source mem fit
      · rw [CallCredentials.ofOutcome, CallCredentials.bearer_of_not_printable fit]
        exact .unfit passes source mem fit
  | late passes source limit => exact .late passes source (sub (List.mem_cons_self ..)) limit

end Fetch

theorem status_eq (e : CredentialError) :
    e.status = ⟨if e = .deadline then .deadlineExceeded else .unauthenticated, e.message⟩ := by
  cases e <;> rfl

namespace Life

theorem asks_le (l : Life cr c p as es) : es.countP (Event.isAsked c) ≤ 1 := by
  induction l with
  | outside | created | fetching => simp [Event.isAsked]
  | sent _ f | rejected f | answered _ _ f => simpa [Event.isAsked] using f.asks_le
  | dropped _ _ ih => simpa [Event.isAsked] using ih

theorem sent_le (l : Life cr c p as es) : (es.filterMap (Event.sent? d)).length ≤ 1 := by
  induction l with
  | outside | created | fetching => exact Nat.zero_le 1
  | rejected f =>
    rw [List.filterMap_cons_none rfl, f.sent_nil]
    exact Nat.zero_le 1
  | sent _ f =>
    rw [List.filterMap_cons, f.sent_nil]
    split <;> simp
  | answered _ _ f =>
    rw [List.filterMap_cons_none rfl, List.filterMap_cons, f.sent_nil]
    split <;> simp
  | dropped _ _ ih => rwa [List.filterMap_cons_none rfl]

/-- An end is reached from a fetch. -/
theorem of_ended (l : Life cr c p as es) (h : .ended c res ∈ es) :
    ∃ v i r m as' es', Fetch cr c v i r m as' es' ∧
      ((∃ e, m = .error e ∧ res = .rejected e ∧ as = as' ∧ es = .ended c res :: es') ∨
        ∃ o w x, m = .ok o ∧ res = .answered x ∧ as = .answer c x :: as' ∧
          es = .ended c res :: .sent c i (r.carry o) w :: es') := by
  induction l with
  | outside | created | fetching => simp at h
  | sent _ f => simp [f.not_ended] at h
  | rejected f =>
    obtain rfl : res = .rejected _ := by simpa [f.not_ended] using h
    exact ⟨_, _, _, _, _, _, f, .inl ⟨_, rfl, rfl, rfl, rfl⟩⟩
  | answered w x f =>
    obtain rfl : res = .answered x := by simpa [f.not_ended] using h
    exact ⟨_, _, _, _, _, _, f, .inr ⟨_, w, x, rfl, rfl, rfl, rfl⟩⟩
  | dropped l open_ ih =>
    -- What could be given up had not ended.
    cases l with
    | created | fetching => simp at h
    | sent _ f => simp [f.not_ended] at h
    | outside | rejected | answered | dropped => cases open_

end Life

namespace Run

theorem asks_le (run : Run cr as s) (c : CallId) : s.asks c ≤ 1 := by
  rw [s.asks_eq c]
  exact (run.life c).asks_le

theorem sent_le (run : Run cr as s) (c : CallId) : (s.sent c).length ≤ 1 := by
  rw [s.sent_eq c, List.length_reverse]
  exact (run.life c).sent_le

theorem settled (run : Run cr as s) (made : .call c v r ∈ as) (ended : .ended c res ∈ s.history) :
    s.asks c = (if cr.hasSource && !cr.refuses r.uri then 1 else 0) ∧
      ∃ m, Fetched cr as c r m ∧ Settled s as c r res m := by
  have made' : .call c v r ∈ doneTo c as := mem_ownBy.2 ⟨made, rfl⟩
  have ended' : .ended c res ∈ eventsOf c s.history := mem_ownBy.2 ⟨ended, rfl⟩
  have sub : doneTo c as ⊆ as := fun _ ha => (mem_ownBy.1 ha).1
  obtain ⟨v', i, r', m, as', es', f, hend⟩ := (run.life c).of_ended ended'
  rcases hend with ⟨e, rfl, rfl, has, hes⟩ | ⟨o, w, x, rfl, rfl, has, hes⟩
  · obtain ⟨-, rfl⟩ := f.of_call (has ▸ made')
    refine ⟨?_, _, f.fetched (has ▸ sub), ?_, rfl, status_eq e⟩
    · rw [s.asks_eq, hes]
      simpa [Event.isAsked, List.countP_cons] using f.asks_eq
    · rw [s.sent_eq, hes, List.filterMap_cons_none rfl, f.sent_nil]
      rfl
  · have call_mem : .call c v r ∈ as' := by simpa [has] using made'
    obtain ⟨-, rfl⟩ := f.of_call call_mem
    have answer_mem : .answer c x ∈ as := sub (has ▸ List.mem_cons_self ..)
    have sent_once : (s.sent c).map (·.1) = [r.carry o] := by
      rw [s.sent_eq, hes, List.filterMap_cons_none rfl, List.filterMap_cons, f.sent_nil]
      simp [Event.sent?]
    refine ⟨?_, _, f.fetched fun a ha => sub (has ▸ List.mem_cons_of_mem _ ha), ?_⟩
    · rw [s.asks_eq, hes]
      simpa [Event.isAsked, List.countP_cons] using f.asks_eq
    · cases o with
      | none => exact ⟨sent_once, x, answer_mem, rfl⟩
      | some h => exact ⟨⟨_, sent_once, r.carriesOnly_authorize h⟩, x, answer_mem, rfl⟩

/-- No call asks the token source or calls the inner service twice, and one that has ended has asked once, unless it
was refused or there is no source. It ends with an error's status and nothing sent, or with what the inner service has
answered to its request, with the bearer value as the only authorization if there is a source. -/
theorem calls_carry_bearer (run : Run cr as s) :
    (∀ c, s.asks c ≤ 1 ∧ (s.sent c).length ≤ 1) ∧
      ∀ c v r res, .call c v r ∈ as → .ended c res ∈ s.history →
        s.asks c = (if cr.hasSource && !cr.refuses r.uri then 1 else 0) ∧
          ∃ m, Fetched cr as c r m ∧ Settled s as c r res m :=
  ⟨fun c => ⟨run.asks_le c, run.sent_le c⟩, fun _ _ _ _ made ended => run.settled made ended⟩

/-- A call that came with two authorizations, over TLS. -/
theorem calls_carry_bearer_over_tls :
    let cr : CallCredentials := ⟨true, true⟩
    let two : Headers := [("authorization", .ofString "Basic YTpi"), ("authorization", .ofString "Bearer old")]
    let r : Request := ⟨"POST", ⟨some .https, some "id.example.com", ⟨"/svc/Method", none⟩⟩, two, []⟩
    let as : List (Action Nat) :=
      [.answer 0 7, .fetched 0 (.token (.bearer "tok")), .begin 0, .call 0 0 r, .ready 0]
    ∃ s, Run cr as s ∧ .ended 0 (.answered 7) ∈ s.history ∧ s.asks 0 = 1 ∧
      ∃ r', (s.sent 0).map (·.1) = [r'] ∧ r.CarriesOnly ⟨Utf8.encode "Bearer tok", true⟩ r' := by
  intro cr two r as
  have called := Run.first_call (ρ := Nat) cr r
  have asked := called.step (.ask (c := 0) (i := 0) (r := r) rfl rfl rfl)
  have sent := asked.step (.attach (c := 0) (i := 0) (r := r) (o := .token (.bearer "tok")) rfl rfl)
  have run := sent.step (.answer (c := 0) (i := 0) 7 rfl)
  obtain ⟨asks, m, fetched, settled⟩ :=
    (calls_carry_bearer run).2 0 0 r (.answered 7) (by simp) List.mem_cons_self
  refine ⟨_, run, List.mem_cons_self, asks, ?_⟩
  cases fetched with
  | refused refused => cases refused
  | unneeded _ source => cases source
  | bearer _ _ told =>
    obtain rfl : _ = AccessToken.bearer "tok" := by simpa using told
    exact settled.1
  | unfit | failed | late => cases settled.2.1

end Run

end Credentials

end IdentityClient
