import IdentityClient.Proofs.Client.Fault
import IdentityClient.Proofs.Client.Secure

/-!
# What becomes of dial options

A builder keeps its options in the order in which they were given, however they were split over its calls
(`ClientBuilder.options_fold`). Each option has a part in one of two folds over the list: of the socket's options the last
of a kind wins, and none sees the others (`SocketSettings.LastWins`); the rest change the endpoint one after the other, up
to the first that cannot be applied (`DialOption.Folds`). There, too, the last of a kind wins (`Endpoint.LastWins`), but a
change of the caller's own sees the endpoint as it is by then (`Endpoint.Becomes`).
-/

namespace IdentityClient

/-- What some steps of a fold replace and all others leave alone is what the last of them has made it. -/
theorem foldl_last {σ β α : Type} (step : σ → β → σ) (get : σ → Option α) (value? : β → Option α)
    (replaces : ∀ s x, get (step s x) = (value? x).or (get s)) (xs : List β) (s : σ) :
    get (xs.foldl step s) = (xs.filterMap value?).getLast?.or (get s) := by
  induction xs generalizing s with
  | nil => rfl
  | cons x xs ih =>
    rw [List.foldl_cons, ih, replaces, List.filterMap_cons]
    cases value? x with
    | none => rfl
    | some a =>
      rw [List.getLast?_cons]
      cases (xs.filterMap value?).getLast? <;> rfl

/-! ### The socket -/

inductive SocketKind where
  | connectTimeout
  | nodelay
  | keepalive
  | lazy
  deriving DecidableEq

namespace DialOption

/-- The kind of an option that concerns the socket. -/
def socketKind? : DialOption → Option SocketKind
  | .connectTimeout _ => some .connectTimeout
  | .tcpNodelay _ => some .nodelay
  | .tcpKeepalive _ => some .keepalive
  | .lazy => some .lazy
  | _ => none

/-- The options of a kind, in order. -/
def ofKind (k : SocketKind) (options : List DialOption) : List DialOption :=
  options.filter fun o => o.socketKind? = some k

def connectTimeout? : DialOption → Option Duration
  | .connectTimeout d => some d
  | _ => none

def nodelay? : DialOption → Option Bool
  | .tcpNodelay on => some on
  | _ => none

def keepalive? : DialOption → Option Bool
  | .tcpKeepalive on => some on
  | _ => none

/-- What is read off the options of one kind only is not touched by the others. -/
theorem filterMap_ofKind {α : Type} {value? : DialOption → Option α} {k : SocketKind}
    (own : ∀ o, o.socketKind? ≠ some k → value? o = none) (options : List DialOption) :
    (ofKind k options).filterMap value? = options.filterMap value? := by
  rw [ofKind, List.filterMap_filter]
  congr 1
  funext o
  by_cases hk : o.socketKind? = some k
  · simp [hk]
  · simp [hk, own o hk]

end DialOption

namespace SocketSettings

open DialOption

theorem connectTimeout_ofOptions (options : List DialOption) :
    (ofOptions options).connectTimeout = (options.filterMap connectTimeout?).getLast? := by
  have last := foldl_last add connectTimeout connectTimeout? (fun s o => by cases o <;> rfl) options {}
  rw [ofOptions, last]
  exact Option.or_none

theorem nodelay_ofOptions (options : List DialOption) :
    (ofOptions options).nodelay = (options.filterMap nodelay?).getLast?.getD true := by
  have last := foldl_last add (fun s => some s.nodelay) nodelay? (fun s o => by cases o <;> rfl) options {}
  rw [Option.or_some] at last
  exact Option.some.inj last

theorem keepalive_ofOptions (options : List DialOption) :
    (ofOptions options).keepalive = (options.filterMap keepalive?).getLast?.getD false := by
  have last := foldl_last add (fun s => some s.keepalive) keepalive? (fun s o => by cases o <;> rfl) options {}
  rw [Option.or_some] at last
  exact Option.some.inj last

/-- Two settings agree in what options of kind `k` decide. -/
def AgreeAt (k : SocketKind) (s s' : SocketSettings) : Prop :=
  match k with
  | .connectTimeout => s.connectTimeout = s'.connectTimeout
  | .nodelay => s.nodelay = s'.nodelay
  | .keepalive => s.keepalive = s'.keepalive
  | .lazy => s.lazy = s'.lazy

/-- The options of the other kinds could as well not be there. -/
theorem agreeAt_ofKind (k : SocketKind) (options : List DialOption) :
    (ofOptions (ofKind k options)).AgreeAt k (ofOptions options) := by
  cases k with
  | connectTimeout =>
    show (ofOptions _).connectTimeout = (ofOptions _).connectTimeout
    rw [connectTimeout_ofOptions, connectTimeout_ofOptions, filterMap_ofKind]
    intro o ho
    cases o <;> first | rfl | exact absurd rfl ho
  | nodelay =>
    show (ofOptions _).nodelay = (ofOptions _).nodelay
    rw [nodelay_ofOptions, nodelay_ofOptions, filterMap_ofKind]
    intro o ho
    cases o <;> first | rfl | exact absurd rfl ho
  | keepalive =>
    show (ofOptions _).keepalive = (ofOptions _).keepalive
    rw [keepalive_ofOptions, keepalive_ofOptions, filterMap_ofKind]
    intro o ho
    cases o <;> first | rfl | exact absurd rfl ho
  | lazy =>
    show (ofOptions _).lazy = (ofOptions _).lazy
    rw [Bool.eq_iff_iff, lazy_ofOptions, lazy_ofOptions]
    simp [ofKind, socketKind?]

/-- What options come to for the socket. -/
structure LastWins (options : List DialOption) : Prop where
  connectTimeout : (ofOptions options).connectTimeout = (options.filterMap connectTimeout?).getLast?
  nodelay : (ofOptions options).nodelay = (options.filterMap nodelay?).getLast?.getD true
  keepalive : (ofOptions options).keepalive = (options.filterMap keepalive?).getLast?.getD false
  lazy : (ofOptions options).lazy = true ↔ .lazy ∈ options
  /-- Options of other kinds may be put in, taken out and moved about. -/
  apart : ∀ k others, ofKind k others = ofKind k options → (ofOptions others).AgreeAt k (ofOptions options)

theorem AgreeAt.trans {k : SocketKind} {s s' s'' : SocketSettings} (h : s.AgreeAt k s') (h' : s'.AgreeAt k s'') :
    s.AgreeAt k s'' := by
  cases k <;> exact Eq.trans h h'

theorem AgreeAt.symm {k : SocketKind} {s s' : SocketSettings} (h : s.AgreeAt k s') : s'.AgreeAt k s := by
  cases k <;> exact Eq.symm h

theorem lastWins (options : List DialOption) : LastWins options where
  connectTimeout := connectTimeout_ofOptions options
  nodelay := nodelay_ofOptions options
  keepalive := keepalive_ofOptions options
  lazy := lazy_ofOptions
  apart := by
    intro k others same
    have alone := agreeAt_ofKind k others
    rw [same] at alone
    exact alone.symm.trans (agreeAt_ofKind k options)

end SocketSettings

/-! ### The endpoint -/

namespace DialOption

def timeout? : DialOption → Option Duration
  | .timeout d => some d
  | _ => none

def keepaliveInterval? : DialOption → Option Duration
  | .keepaliveInterval d => some d
  | _ => none

def keepaliveTimeout? : DialOption → Option Duration
  | .keepaliveTimeout d => some d
  | _ => none

def keepaliveWhileIdle? : DialOption → Option Bool
  | .keepaliveWhileIdle on => some on
  | _ => none

/-- The user agent as a header has it, if one can. -/
def userAgent? : DialOption → Option HeaderValue
  | .userAgent text => HeaderValue.ofString? text
  | _ => none

def concurrencyLimit? : DialOption → Option Nat
  | .concurrencyLimit n => some n
  | _ => none

end DialOption

namespace Endpoint

open DialOption

/-- What options come to without a change of the caller's own: what none of them sets is kept. -/
structure LastWins (options : List DialOption) (e e' : Endpoint) : Prop where
  timeout : e'.timeout = (options.filterMap timeout?).getLast?.or e.timeout
  keepaliveInterval : e'.keepaliveInterval = (options.filterMap keepaliveInterval?).getLast?.or e.keepaliveInterval
  keepaliveTimeout : e'.keepaliveTimeout = (options.filterMap keepaliveTimeout?).getLast?.or e.keepaliveTimeout
  keepaliveWhileIdle : e'.keepaliveWhileIdle = (options.filterMap keepaliveWhileIdle?).getLast?.or e.keepaliveWhileIdle
  userAgent : e'.userAgent = (options.filterMap userAgent?).getLast?.or e.userAgent
  concurrencyLimit : e'.concurrencyLimit = (options.filterMap concurrencyLimit?).getLast?.or e.concurrencyLimit
  address : e'.address = e.address
  origin : e'.origin = e.origin
  mutations : e'.mutations = e.mutations

/-- What options come to: up to a change of the caller's own the last of each kind wins, the change is made to what has
come of that, and those behind it are applied to what it gives. -/
inductive Becomes : List DialOption → Endpoint → Endpoint → Prop where
  | plain {options : List DialOption} {e e' : Endpoint} (free : ∀ change, .custom change ∉ options)
      (last : LastWins options e e') : Becomes options e e'
  | custom {before after : List DialOption} {change : Endpoint → Endpoint} {e e₁ e' : Endpoint}
      (free : ∀ change, .custom change ∉ before) (last : LastWins before e e₁) (later : Becomes after (change e₁) e') :
      Becomes (before ++ .custom change :: after) e e'

variable {options before after : List DialOption} {o : DialOption} {e e₁ e' e'' : Endpoint}

namespace LastWins

theorem refl (e : Endpoint) : LastWins [] e e := ⟨rfl, rfl, rfl, rfl, rfl, rfl, rfl, rfl, rfl⟩

theorem unique (h : LastWins options e e') (h' : LastWins options e e'') : e' = e'' := by
  obtain ⟨address, origin, timeout, interval, unanswered, idle, agent, limit, mutations⟩ := e'
  rw [Endpoint.mk.injEq]
  exact ⟨h.address.trans h'.address.symm, h.origin.trans h'.origin.symm, h.timeout.trans h'.timeout.symm,
    h.keepaliveInterval.trans h'.keepaliveInterval.symm, h.keepaliveTimeout.trans h'.keepaliveTimeout.symm,
    h.keepaliveWhileIdle.trans h'.keepaliveWhileIdle.symm, h.userAgent.trans h'.userAgent.symm,
    h.concurrencyLimit.trans h'.concurrencyLimit.symm, h.mutations.trans h'.mutations.symm⟩

/-- The last of all is the last of those behind, or else of those in front. -/
theorem or_append {α : Type} {value? : DialOption → Option α} {x y z : Option α}
    (first : y = (before.filterMap value?).getLast?.or x) (second : z = (after.filterMap value?).getLast?.or y) :
    z = ((before ++ after).filterMap value?).getLast?.or x := by
  rw [second, first, List.filterMap_append, List.getLast?_append, Option.or_assoc]

theorem append (h : LastWins before e e₁) (h' : LastWins after e₁ e') : LastWins (before ++ after) e e' where
  timeout := or_append h.timeout h'.timeout
  keepaliveInterval := or_append h.keepaliveInterval h'.keepaliveInterval
  keepaliveTimeout := or_append h.keepaliveTimeout h'.keepaliveTimeout
  keepaliveWhileIdle := or_append h.keepaliveWhileIdle h'.keepaliveWhileIdle
  userAgent := or_append h.userAgent h'.userAgent
  concurrencyLimit := or_append h.concurrencyLimit h'.concurrencyLimit
  address := h'.address.trans h.address
  origin := h'.origin.trans h.origin
  mutations := h'.mutations.trans h.mutations

theorem of_apply (applied : o.apply e = .ok e') (free : ∀ change, o ≠ .custom change) : LastWins [o] e e' := by
  cases o with
  | custom change => exact absurd rfl (free change)
  | userAgent text =>
    unfold apply at applied
    dsimp only at applied
    split at applied
    · rename_i v formed
      cases applied
      refine ⟨rfl, rfl, rfl, rfl, ?_, rfl, rfl, rfl, rfl⟩
      simp [userAgent?, formed]
    · cases applied
  | _ =>
    cases applied
    exact ⟨rfl, rfl, rfl, rfl, rfl, rfl, rfl, rfl, rfl⟩

end LastWins

namespace Becomes

theorem lastWins (h : Becomes options e e') (free : ∀ change, .custom change ∉ options) : LastWins options e e' := by
  cases h with
  | plain _ last => exact last
  | custom => exact absurd (List.mem_append_right _ List.mem_cons_self) (free _)

theorem cons (first : o.apply e = .ok e₁) (later : Becomes options e₁ e') : Becomes (o :: options) e e' := by
  by_cases custom : ∃ change, o = .custom change
  · obtain ⟨change, rfl⟩ := custom
    obtain rfl : change e = e₁ := Except.ok.inj first
    exact .custom (fun _ => List.not_mem_nil) (.refl e) later
  · -- Any other option goes to the front of the options up to the first change.
    have free : ∀ change, o ≠ .custom change := not_exists.1 custom
    have one := LastWins.of_apply first free
    have free_cons {os : List DialOption} (rest : ∀ change, .custom change ∉ os) : ∀ change, .custom change ∉ o :: os :=
      fun change => List.not_mem_cons_of_ne_of_not_mem (free change).symm (rest change)
    cases later with
    | plain rest last => exact .plain (free_cons rest) (one.append last)
    | custom rest last later => exact .custom (free_cons rest) (one.append last) later

end Becomes

end Endpoint

namespace DialOption

variable {options : List DialOption} {e e' : Endpoint}

/-- Applies options in order up to the first that fails, with the options that were run. -/
def runAll : List DialOption → Endpoint → List DialOption × Except TransportError Endpoint
  | [], e => ([], .ok e)
  | o :: os, e =>
    match o.apply e with
    | .error f => ([o], .error f)
    | .ok e =>
      let (ran, result) := runAll os e
      (o :: ran, result)

theorem runAll_snd (options : List DialOption) (e : Endpoint) : (runAll options e).2 = applyAll options e := by
  induction options generalizing e with
  | nil => rfl
  | cons o os ih =>
    rw [runAll, applyAll]
    cases o.apply e with
    | error f => rfl
    | ok e' => exact ih e'

theorem applyAll_eq_foldlM (options : List DialOption) (e : Endpoint) :
    applyAll options e = options.foldlM (fun e o => o.apply e) e := by
  induction options generalizing e with
  | nil => rfl
  | cons o os ih =>
    rw [applyAll, List.foldlM_cons]
    cases o.apply e with
    | error f => rfl
    | ok e' => exact ih e'

/-- The options of the socket leave the endpoint alone. -/
theorem applyAll_rest (options : List DialOption) (e : Endpoint) :
    applyAll (options.filter fun o => !o.isSocket) e = applyAll options e := by
  induction options generalizing e with
  | nil => rfl
  | cons o os ih =>
    cases socket : o.isSocket with
    | true =>
      rw [List.filter_cons_of_neg (by simp [socket]), ih, applyAll, apply_of_isSocket socket]
    | false =>
      rw [List.filter_cons_of_pos (by simp [socket]), applyAll, applyAll]
      cases o.apply e with
      | error f => rfl
      | ok e' => exact ih e'

theorem fault?_userAgent (text : String) : (userAgent text).fault? =
    if (HeaderValue.ofString? text).isSome then none else some (.dialOption ("user agent " ++ quoted text)) := by
  rw [fault?, HeaderValue.ofString?]
  split <;> rfl

theorem fault?_eq_none_iff {o : DialOption} :
    o.fault? = none ↔ ∀ text, o = .userAgent text → (HeaderValue.ofString? text).isSome = true := by
  cases o with
  | userAgent text => simp [fault?_userAgent, Option.isSome_iff_ne_none]
  | _ => simp [fault?]

theorem exists_applyAll_iff :
    (∃ e', applyAll options e = .ok e') ↔ ∀ o ∈ options, o.fault? = none := by
  rw [← List.findSome?_eq_none_iff]
  cases applied : applyAll options e with
  | error f => simp [applyAll_eq_error_iff.1 applied]
  | ok e' =>
    refine iff_of_true ⟨e', rfl⟩ (Option.eq_none_iff_forall_ne_some.2 fun f hf => ?_)
    rw [applyAll_eq_error_iff.2 hf] at applied
    cases applied

/-- The first option that cannot be applied is the last that is run. -/
theorem runAll_of_fault {before : List DialOption} {o : DialOption} {f : TransportError}
    (sound : ∀ o ∈ before, o.fault? = none) (fails : o.fault? = some f) (after : List DialOption) (e : Endpoint) :
    runAll (before ++ o :: after) e = (before ++ [o], .error f) := by
  induction before generalizing e with
  | nil =>
    rw [List.nil_append, runAll, apply_eq_error_iff.2 fails]
    rfl
  | cons p before ih =>
    rw [List.cons_append, runAll]
    cases applied : p.apply e with
    | error g =>
      have refused := sound p (List.mem_cons_self ..)
      rw [apply_eq_error_iff.1 applied] at refused
      cases refused
    | ok e' =>
      dsimp only
      rw [ih (fun o ho => sound o (List.mem_cons_of_mem _ ho)) e']
      rfl

theorem forall_fault?_iff : (∀ o ∈ options, o.fault? = none) ↔
    ∀ text, .userAgent text ∈ options → (HeaderValue.ofString? text).isSome = true := by
  simp only [fault?_eq_none_iff]
  constructor
  · intro h text ht
    exact h _ ht text rfl
  · rintro h o ho text rfl
    exact h text ho

theorem becomes_of_applyAll (applied : applyAll options e = .ok e') : Endpoint.Becomes options e e' := by
  induction options generalizing e with
  | nil =>
    obtain rfl := Except.ok.inj applied
    exact .plain (fun _ => List.not_mem_nil) (.refl e)
  | cons o os ih =>
    rw [applyAll] at applied
    cases first : o.apply e with
    | error f => rw [first] at applied; cases applied
    | ok e₁ =>
      rw [first] at applied
      exact .cons first (ih applied)

theorem applyAll_of_lastWins (sound : ∀ o ∈ options, o.fault? = none) (free : ∀ change, .custom change ∉ options)
    (last : Endpoint.LastWins options e e') : applyAll options e = .ok e' := by
  obtain ⟨e'', applied⟩ := exists_applyAll_iff.2 sound
  obtain rfl := last.unique ((becomes_of_applyAll applied).lastWins free)
  exact applied

theorem applyAll_append (before after : List DialOption) (e : Endpoint) :
    applyAll (before ++ after) e = (applyAll before e).bind (applyAll after) := by
  rw [applyAll_eq_foldlM, List.foldlM_append, ← applyAll_eq_foldlM]
  exact congrArg (Except.bind _) (funext fun e => (applyAll_eq_foldlM after e).symm)

theorem applyAll_of_becomes (sound : ∀ o ∈ options, o.fault? = none) (h : Endpoint.Becomes options e e') :
    applyAll options e = .ok e' := by
  induction h with
  | plain free last => exact applyAll_of_lastWins sound free last
  | @custom before after change e e₁ e' free last _ ih =>
    have first := applyAll_of_lastWins (fun o ho => sound o (List.mem_append_left _ ho)) free last
    rw [applyAll_append, first]
    exact ih fun o ho => sound o (List.mem_append_right _ (List.mem_cons_of_mem _ ho))

/-- What options come to for an endpoint. -/
structure Folds (options : List DialOption) (e : Endpoint) : Prop where
  /-- The socket's options left out, they are applied from left to right. -/
  fold : applyAll options e = (options.filter fun o => !o.isSocket).foldlM (fun e o => o.apply e) e
  ok_iff : (∃ e', applyAll options e = .ok e') ↔
    ∀ text, .userAgent text ∈ options → (HeaderValue.ofString? text).isSome = true
  /-- What each option does to the endpoint. -/
  becomes : ∀ e', applyAll options e = .ok e' ↔
    (∀ text, .userAgent text ∈ options → (HeaderValue.ofString? text).isSome = true) ∧ Endpoint.Becomes options e e'
  run : (runAll options e).2 = applyAll options e
  /-- The first user agent that cannot stand in a header is the fault, and nothing behind it is run. -/
  stops : ∀ before text after, options = before ++ .userAgent text :: after →
    (∀ text, .userAgent text ∈ before → (HeaderValue.ofString? text).isSome = true) →
    HeaderValue.ofString? text = none →
    runAll options e = (before ++ [.userAgent text], .error (.dialOption ("user agent " ++ quoted text)))

theorem folds (options : List DialOption) (e : Endpoint) : Folds options e where
  fold := by rw [← applyAll_eq_foldlM, applyAll_rest]
  ok_iff := exists_applyAll_iff.trans forall_fault?_iff
  becomes e' := by
    rw [← forall_fault?_iff]
    refine ⟨fun applied => ⟨exists_applyAll_iff.1 ⟨e', applied⟩, becomes_of_applyAll applied⟩, ?_⟩
    rintro ⟨sound, becomes⟩
    exact applyAll_of_becomes sound becomes
  run := runAll_snd options e
  stops := by
    rintro before text after rfl sound bad
    refine runAll_of_fault (forall_fault?_iff.2 sound) ?_ after e
    rw [fault?_userAgent, bad]
    rfl

end DialOption

/-! ### The builder -/

namespace ClientBuilder

/-- What a builder can be told, once it has an issuer. -/
inductive Setting where
  | auth (a : Auth)
  | dial (options : List DialOption)

def Setting.options : Setting → List DialOption
  | .auth _ => []
  | .dial options => options

def Setting.auth? : Setting → Option Auth
  | .auth a => some a
  | .dial _ => none

def set (b : ClientBuilder) : Setting → ClientBuilder
  | .auth a => b.withAuth a
  | .dial options => b.withDialOptions options

/-- The builder that has been told one thing after the other. -/
def after (b : ClientBuilder) (settings : List Setting) : ClientBuilder := settings.foldl set b

theorem issuer_after (b : ClientBuilder) (settings : List Setting) : (b.after settings).issuer = b.issuer := by
  induction settings generalizing b with
  | nil => rfl
  | cons x xs ih =>
    rw [after, List.foldl_cons]
    refine (ih (b.set x)).trans ?_
    cases x <;> rfl

theorem dialOptions_after (b : ClientBuilder) (settings : List Setting) :
    (b.after settings).dialOptions = b.dialOptions ++ settings.flatMap Setting.options := by
  induction settings generalizing b with
  | nil => exact (List.append_nil _).symm
  | cons x xs ih =>
    rw [after, List.foldl_cons, List.flatMap_cons, ← List.append_assoc]
    refine (ih (b.set x)).trans ?_
    cases x with
    | auth a => rw [Setting.options, List.append_nil]; rfl
    | dial options => rfl

theorem auth_after (b : ClientBuilder) (settings : List Setting) :
    (b.after settings).auth = (settings.filterMap Setting.auth?).getLast?.or b.auth :=
  foldl_last set auth Setting.auth? (fun b x => by cases x <;> rfl) settings b

/-- A connection that was made has the settings and the endpoint that the options come to. -/
theorem settings_of_run {b : ClientBuilder} {store : TrustStore} {w : World} {past : List Event} {conn : Connection}
    (built : ((b.connect store).run w past).2 = some (.ok conn)) :
    conn.channel.target.settings = SocketSettings.ofOptions b.dialOptions ∧
      ∃ address origin, DialOption.applyAll b.dialOptions { address, origin } = .ok conn.channel.endpoint := by
  obtain ⟨-, source, es, made⟩ := connects_of_run built
  obtain ⟨endpoint, tls, set, -, channel⟩ := made.ok
  rw [channel]
  refine ⟨rfl, ?_⟩
  unfold Channel.endpointFor at set
  split at set
  · cases set
  · split at set
    · cases set
    · exact ⟨_, _, set⟩

/-- However options are split over a builder's calls, it keeps them in order, and the last authentication; they come to
the two folds, which every connection that it makes is set up with. -/
theorem options_fold (b : ClientBuilder) (settings : List Setting) :
    let options := b.dialOptions ++ settings.flatMap Setting.options
    (b.after settings).issuer = b.issuer ∧
    (b.after settings).dialOptions = options ∧
    (b.after settings).auth = (settings.filterMap Setting.auth?).getLast?.or b.auth ∧
    SocketSettings.LastWins options ∧
    (∀ e, DialOption.Folds options e) ∧
    ∀ store w past conn, (((b.after settings).connect store).run w past).2 = some (.ok conn) →
      conn.channel.target.settings = SocketSettings.ofOptions options ∧
        ∃ address origin, DialOption.applyAll options { address, origin } = .ok conn.channel.endpoint := by
  intro options
  have given : (b.after settings).dialOptions = options := dialOptions_after b settings
  refine ⟨issuer_after b settings, given, auth_after b settings, SocketSettings.lastWins options, ?_, ?_⟩
  · intro e
    exact DialOption.folds options e
  · intro store w past conn built
    rw [← given]
    exact settings_of_run built

/-- Over two calls, with the authentication set twice: the later limits count, on connecting and on requests, and so does
`lazy`. Where a user agent cannot stand in a header, the caller's own change behind it is not run. -/
theorem options_fold_split :
    let issuer : Issuer := .ofDomain "example.com"
    let settings : List Setting := [.auth (.personalAccessToken "a"), .dial [.connectTimeout ⟨1⟩, .lazy, .timeout ⟨3⟩],
      .auth (.personalAccessToken "b"), .dial [.userAgent "agent", .connectTimeout ⟨2⟩, .timeout ⟨4⟩]]
    let bad : List Setting := [.dial [.userAgent "a\nb"], .dial [.custom fun e => { e with origin := none }]]
    let endpoint : Endpoint := { address := ⟨some .http, some "example.com:443", ⟨"", none⟩⟩ }
    ((ofIssuer issuer).after settings).auth = some (.personalAccessToken "b") ∧
      (∃ conn : Connection, ((((ofIssuer issuer).after settings).connect ⟨1⟩).run .silent []).2 = some (.ok conn) ∧
        conn.channel.target.settings = ⟨some ⟨2⟩, true, false, true⟩ ∧ conn.channel.endpoint.timeout = some ⟨4⟩) ∧
      (DialOption.runAll ((ofIssuer issuer).after bad).dialOptions endpoint).1 = [.userAgent "a\nb"] := by
  intro issuer settings bad endpoint
  let origin : Uri := ⟨some .https, some "example.com", ⟨"", none⟩⟩
  let tls : TlsSession := ⟨⟨true, ["h2"]⟩, .dns "example.com"⟩
  let options : List DialOption :=
    [.connectTimeout ⟨1⟩, .lazy, .timeout ⟨3⟩, .userAgent "agent", .connectTimeout ⟨2⟩, .timeout ⟨4⟩]
  let agent : HeaderValue := .ofString "agent"
  let conn : Connection := ⟨.ofSettings issuer (some (.fixed (.bearer "b"))) options
    { endpoint with origin := some origin, timeout := some ⟨4⟩, userAgent := some agent } (some tls), origin⟩
  have named : issuer.originUri = .ok origin := eq_ok_of_toOption (by decide +kernel)
  have set : Channel.endpointFor issuer options = .ok conn.channel.endpoint := eq_ok_of_toOption (by decide +kernel)
  have speaks : Channel.tlsFor (.ofDomain "example.com") ⟨1⟩ = (.ok (some tls), []) := rfl
  change Channel.tlsFor issuer ⟨1⟩ = _ at speaks
  have source : ((ofIssuer issuer).after settings).tokenSource =
      .log ((Auth.personalAccessToken "b").initializing issuer) (.done (.ok (some (.fixed (.bearer "b"))))) := rfl
  have opened : Channel.connect issuer (some (.fixed (.bearer "b"))) options ⟨1⟩ =
      .log (Channel.connecting issuer (SocketSettings.ofOptions options)) (.done (some (.ok conn.channel))) := by
    rw [Channel.connect, set]
    dsimp only
    rw [speaks]
    rfl
  have connected : ((ofIssuer issuer).after settings).connectWith (some (.fixed (.bearer "b"))) ⟨1⟩ =
      .log (Channel.connecting issuer (SocketSettings.ofOptions options))
        (.log (ClientBuilder.connected issuer) (.done (some (.ok conn)))) := by
    have given : ((ofIssuer issuer).after settings).dialOptions = options := rfl
    have kept : ((ofIssuer issuer).after settings).issuer = issuer := rfl
    rw [connectWith, kept, named, given]
    dsimp only
    rw [opened]
    rfl
  have built : ((((ofIssuer issuer).after settings).connect ⟨1⟩).run .silent []).2 = some (.ok conn) := by
    rw [connect, source, Procedure.bind, Procedure.bind]
    dsimp only
    rw [connected]
    rfl
  obtain ⟨-, -, auth, -, comes, connects⟩ := options_fold (ofIssuer issuer) settings
  obtain ⟨-, given, -, -, folds, -⟩ := options_fold (ofIssuer issuer) bad
  obtain ⟨socket, address, origin', applied⟩ := connects ⟨1⟩ .silent [] conn built
  have free : ∀ change, .custom change ∉ options := by simp [options]
  have last : Endpoint.LastWins options { address, origin := origin' } conn.channel.endpoint :=
    (((comes _).becomes _).1 applied).2.lastWins free
  refine ⟨auth, ⟨conn, built, socket, last.timeout⟩, ?_⟩
  have before : ∀ text, .userAgent text ∈ ([] : List DialOption) → (HeaderValue.ofString? text).isSome = true := by
    intro text ht
    cases ht
  rw [given, (folds endpoint).stops [] "a\nb" [.custom fun e => { e with origin := none }] rfl before (by decide)]
  rfl

end ClientBuilder

end IdentityClient
