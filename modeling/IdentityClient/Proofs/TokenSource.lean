import IdentityClient.Proofs.Procedure
import IdentityClient.Proofs.Refreshing.Cache
import IdentityClient.TokenSource

/-!
# Calls for a token, one after the other

A call of a refreshing source looks at its cache and makes one exchange if there is no fresh token (`TokenSource.Asks`).
So calls send nothing as long as the first token is fresh, and whatever they send comes from exchanges, one for each call
at most.
-/

namespace IdentityClient

open Event (sends)

namespace TokenSource

variable {x : Exchange} {s s' : Refreshing.State} {es : List Event} {o : TokenOutcome} {os : List TokenOutcome}
  {n : Nat} {t : AccessToken} {src src' : TokenSource}

/-- Calls for the token, one after the other. -/
def tokens : Nat → TokenSource → Procedure (List TokenOutcome × TokenSource)
  | 0, src => .done ([], src)
  | n + 1, src => src.token.bind fun first => (tokens n first.2).bind fun rest => .done (first.1 :: rest.1, rest.2)

/-- A call for the token at `now` gives the one in the cache or makes an exchange. -/
inductive Asks (x : Exchange) (s : Refreshing.State) (now : Instant) :
    List (HttpRequest × HttpOutcome) → TokenOutcome → Refreshing.State → Prop where
  | cached {t : AccessToken} (fresh : { s with now }.fresh = some t) : Asks x s now [] (.token t) { s with now }
  | exchanged {es : List Event} {o : TokenOutcome} (stale : { s with now }.fresh = none) (exchange : x.run.Ran es o) :
      Asks x s now (sends es) o ({ s with now }.record o)

theorem ran_token (ran : (token (.refreshing x s)).Ran es (o, src)) :
    ∃ m s', .clock m ∈ es ∧ Asks x s m.clock (sends es) o s' ∧ src = .refreshing x s' := by
  unfold token at ran
  cases ran with
  | clock m ran =>
    dsimp only at ran
    split at ran
    · rename_i fresh
      obtain ⟨rfl, given⟩ := Procedure.ran_done ran
      cases given
      exact ⟨m, _, List.mem_cons_self, .cached fresh, rfl⟩
    · rename_i stale
      obtain ⟨first, later, o', rfl, exchanged, ran⟩ := Procedure.ran_bind ran
      cases ran with
      | log _ ran =>
        obtain ⟨rfl, given⟩ := Procedure.ran_done ran
        cases given
        refine ⟨m, _, List.mem_cons_self, ?_, rfl⟩
        simpa using Asks.exchanged stale exchanged

theorem ran_tokens_succ (ran : (tokens (n + 1) src).Ran es (os, src')) : ∃ first later o mid os', es = first ++ later ∧
    src.token.Ran first (o, mid) ∧ (tokens n mid).Ran later (os', src') ∧ os = o :: os' := by
  obtain ⟨first, later, ⟨o, mid⟩, rfl, here, ran⟩ := Procedure.ran_bind ran
  obtain ⟨later, last, ⟨os', src'⟩, rfl, there, ran⟩ := Procedure.ran_bind ran
  obtain ⟨rfl, given⟩ := Procedure.ran_done ran
  cases given
  exact ⟨first, later, o, mid, os', by rw [List.append_nil], here, there, rfl⟩

theorem tokens_of_fixed (ran : (tokens n (.fixed t)).Ran es (os, src)) :
    sends es = [] ∧ os = List.replicate n (.token t) := by
  induction n generalizing es os with
  | zero =>
    obtain ⟨rfl, given⟩ := Procedure.ran_done ran
    cases given
    exact ⟨rfl, rfl⟩
  | succ n ih =>
    obtain ⟨first, later, o, mid, os', rfl, here, there, rfl⟩ := ran_tokens_succ ran
    obtain ⟨rfl, given⟩ := Procedure.ran_done here
    cases given
    obtain ⟨rest, given⟩ := ih there
    rw [given]
    exact ⟨rest, rfl⟩

/-- Calls that all find the token fresh are given it, and send nothing. -/
theorem tokens_of_fresh (ran : (tokens n (.refreshing x s)).Ran es (os, src)) (cached : s.cached = some t)
    (fresh : ∀ m, .clock m ∈ es → t.expiresWithin m.clock s.margin = false) :
    sends es = [] ∧ os = List.replicate n (.token t) := by
  induction n generalizing s es os with
  | zero =>
    obtain ⟨rfl, given⟩ := Procedure.ran_done ran
    cases given
    exact ⟨rfl, rfl⟩
  | succ n ih =>
    obtain ⟨first, later, o, mid, os', rfl, here, there, rfl⟩ := ran_tokens_succ ran
    obtain ⟨m, s', read, asks, rfl⟩ := ran_token here
    have found : ({ s with now := m.clock } : Refreshing.State).fresh = some t :=
      Refreshing.State.fresh_eq_some_iff.2 ⟨cached, fresh m (List.mem_append_left _ read)⟩
    generalize quiet : sends first = sent at asks
    cases asks with
    | cached hit =>
      obtain rfl := Option.some.inj (found.symm.trans hit)
      obtain ⟨rest, given⟩ := ih there cached fun m' hm => fresh m' (List.mem_append_right _ hm)
      rw [Event.sends_append, quiet, rest, given]
      exact ⟨rfl, rfl⟩
    | exchanged stale =>
      rw [found] at stale
      cases stale

/-- Each call gives the token in the cache without a request, or makes one exchange. -/
theorem calls_of_tokens (ran : (tokens n (.refreshing x s)).Ran es (os, src)) :
    ∃ calls : List (List (HttpRequest × HttpOutcome) × TokenOutcome), calls.length = n ∧ os = calls.map Prod.snd ∧
      sends es = (calls.map Prod.fst).flatten ∧
      ∀ c ∈ calls, (c.1 = [] ∧ ∃ t, c.2 = .token t) ∨ ∃ es, x.run.Ran es c.2 ∧ c.1 = sends es := by
  induction n generalizing s es os with
  | zero =>
    obtain ⟨rfl, given⟩ := Procedure.ran_done ran
    cases given
    exact ⟨[], rfl, rfl, rfl, by simp⟩
  | succ n ih =>
    obtain ⟨first, later, o, mid, os', rfl, here, there, rfl⟩ := ran_tokens_succ ran
    obtain ⟨m, s', -, asks, rfl⟩ := ran_token here
    obtain ⟨calls, length, given, sent, each⟩ := ih there
    refine ⟨(sends first, o) :: calls, by simp [length], by simp [given], by simp [sent], ?_⟩
    intro c hc
    rcases List.mem_cons.1 hc with rfl | hc
    · generalize sends first = quiet at asks
      cases asks with
      | cached => exact .inl ⟨rfl, _, rfl⟩
      | exchanged _ exchange => exact .inr ⟨_, exchange, rfl⟩
    · exact each c hc

end TokenSource

end IdentityClient
