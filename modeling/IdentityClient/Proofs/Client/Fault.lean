import IdentityClient.Proofs.Client.Connect

/-!
# Which fault ends the building of a client

After the token source has been made, a builder's settings are checked one after the other. `ClientBuilder.fault?` is the
first check that fails, said of each check on its own; it decides the error, and the connection is opened only where
there is none, and the builder is not lazy (`ClientBuilder.Builds`).
-/

namespace IdentityClient

open Procedure (Ran)

/-- The events of a connection that was tried, in order. -/
def Event.dials (es : List Event) : List (ConnectTarget × ConnectEnd) :=
  es.filterMap fun
    | .connected t e => some (t, e)
    | _ => none

/-! ### The checks -/

/-- An option that cannot be applied: its user agent cannot stand in a header. -/
def DialOption.fault? : DialOption → Option TransportError
  | .userAgent text =>
    if (Utf8.encode text).all HeaderValue.isAllowed then none else some (.dialOption ("user agent " ++ quoted text))
  | _ => none

/-- The origin is no request target. -/
def Issuer.originFault? (i : Issuer) : Option TransportError :=
  match Uri.parse i.origin with
  | .error f => some (.uri f)
  | .ok _ => none

/-- The network address is no request target. -/
def Issuer.addressFault? (i : Issuer) : Option TransportError :=
  match Uri.parse ("http://" ++ i.address) with
  | .error _ => some .address
  | .ok _ => none

/-- With TLS, certificates are to be checked but none is trusted. -/
def Issuer.trustFault? (i : Issuer) (store : TrustStore) : Option TransportError :=
  if i.tls = true ∧ i.skipVerify = false ∧ store.roots = 0 then some .noRoots else none

/-- With TLS, the domain is no server name. -/
def Issuer.nameFault? (i : Issuer) : Option TransportError :=
  match i.tls, ServerName.parse i.domain with
  | true, .error e => some e
  | _, _ => none

namespace ClientBuilder

/-- The first of the checks before anything is logged: origin, address, each dial option in turn. -/
def settingsFault? (b : ClientBuilder) : Option TransportError :=
  b.issuer.originFault?.or (b.issuer.addressFault?.or (b.dialOptions.findSome? DialOption.fault?))

/-- The first of all checks; those of TLS come last. -/
def fault? (b : ClientBuilder) (store : TrustStore) : Option TransportError :=
  b.settingsFault?.or ((b.issuer.trustFault? store).or b.issuer.nameFault?)

end ClientBuilder

namespace DialOption

variable {endpoint : Endpoint} {options : List DialOption} {e : TransportError}

theorem apply_eq_error_iff {o : DialOption} : o.apply endpoint = .error e ↔ o.fault? = some e := by
  cases o with
  | userAgent text =>
    rw [apply, fault?, HeaderValue.ofString?]
    by_cases fit : (Utf8.encode text).all HeaderValue.isAllowed
    · simp [fit]
    · simp [fit]
  | _ => simp [apply, fault?]

theorem applyAll_eq_error_iff : applyAll options endpoint = .error e ↔ options.findSome? fault? = some e := by
  induction options generalizing endpoint with
  | nil => simp [applyAll]
  | cons o os ih =>
    rw [applyAll, List.findSome?_cons]
    cases applied : o.apply endpoint with
    | error f => simp [apply_eq_error_iff.1 applied]
    | ok endpoint' =>
      have sound : o.fault? = none := by
        refine Option.eq_none_iff_forall_ne_some.2 fun f hf => ?_
        rw [apply_eq_error_iff.2 hf] at applied
        cases applied
      rw [sound]
      exact ih

end DialOption

theorem SocketSettings.lazy_ofOptions {options : List DialOption} :
    (ofOptions options).lazy = true ↔ .lazy ∈ options := by
  have step (s : SocketSettings) : (options.foldl add s).lazy = true ↔ s.lazy = true ∨ .lazy ∈ options := by
    induction options generalizing s with
    | nil => simp
    | cons o os ih =>
      rw [List.foldl_cons, ih, List.mem_cons, ← or_assoc]
      refine or_congr_left ?_
      cases o <;> simp [add]
  simpa [ofOptions] using step {}

namespace Channel

variable {i : Issuer} {options : List DialOption} {store : TrustStore} {e : TransportError}

theorem originUri_eq_error_iff : i.originUri = .error e ↔ i.originFault? = some e := by
  unfold Issuer.originUri Issuer.originFault?
  cases Uri.parse i.origin <;> simp

theorem endpointFor_eq_error_iff {u : Uri} (named : i.originUri = .ok u) : endpointFor i options = .error e ↔
    i.addressFault?.or (options.findSome? DialOption.fault?) = some e := by
  have names : ∃ o, namedOrigin i = .ok o := by
    unfold namedOrigin
    rw [named]
    split <;> exact ⟨_, rfl⟩
  obtain ⟨o, names⟩ := names
  unfold endpointFor Issuer.addressFault?
  rw [names]
  cases Uri.parse ("http://" ++ i.address) with
  | error f => simp
  | ok address => exact DialOption.applyAll_eq_error_iff

theorem tlsFor_eq_error_iff : (tlsFor i store).1 = .error e ↔ (i.trustFault? store).or i.nameFault? = some e := by
  unfold tlsFor Issuer.trustFault? Issuer.nameFault? TlsConfig.build
  cases i.tls <;> cases i.skipVerify <;> by_cases roots : store.roots = 0 <;>
    cases ServerName.parse i.domain <;> simp [roots]

end Channel

/-! ### Building -/

namespace ClientBuilder

variable {b : ClientBuilder} {source : Option TokenSource} {store : TrustStore} {w : World} {past es : List Event}
  {u : Uri} {e : TransportError} {r : Option (Except ClientError Connection)}

theorem none_of_ok {α ε : Type} {x : Except ε α} {fault : Option ε} {a : α} (h : ∀ e, x = .error e ↔ fault = some e)
    (ok : x = .ok a) : fault = none := by
  refine Option.eq_none_iff_forall_ne_some.2 fun e he => ?_
  rw [(h e).2 he] at ok
  cases ok

theorem settingsFault?_of_origin (fails : b.issuer.originUri = .error e) : b.settingsFault? = some e := by
  rw [settingsFault?, Channel.originUri_eq_error_iff.1 fails]
  rfl

theorem settingsFault?_eq_some_iff (named : b.issuer.originUri = .ok u) :
    Channel.endpointFor b.issuer b.dialOptions = .error e ↔ b.settingsFault? = some e := by
  rw [Channel.endpointFor_eq_error_iff named, settingsFault?, none_of_ok (fun _ => Channel.originUri_eq_error_iff) named]
  rfl

/-- How building goes on once it is known what the token source has come to: `later` is what happens then. -/
structure Builds (b : ClientBuilder) (store : TrustStore) (made : Except TokenError (Option TokenSource))
    (later : List Event) (r : Option (Except ClientError Connection)) : Prop where
  sourceless : ∀ e, made = .error e → later = [] ∧ r = some (.error (.authInit e))
  faulty : ∀ source e, made = .ok source → b.fault? store = some e → r = some (.error (.connection e)) ∧
    later = if b.settingsFault?.isSome then [] else Channel.notes b.issuer b.dialOptions store
  lazy : ∀ source, made = .ok source → b.fault? store = none → .lazy ∈ b.dialOptions →
    later = Channel.notes b.issuer b.dialOptions store ++ [.logged (connected b.issuer)] ∧ ∃ conn, r = some (.ok conn)
  eager : ∀ source, made = .ok source → b.fault? store = none → .lazy ∉ b.dialOptions → ∃ t e,
    later = Channel.notes b.issuer b.dialOptions store ++ .connected t e :: e.log.map .logged ++
      (if e.result = .opened then [.logged (connected b.issuer)] else []) ∧
    match e.result with
    | .opened => ∃ conn, r = some (.ok conn)
    | .failed _ => r = some (.error (.connection .unreachable))
    | .endless => r = none

/-- Settings that pass, where TLS does not or does. -/
theorem fault?_of_sound (sound : b.settingsFault? = none) {i : Except TransportError (Option TlsSession)}
    (speaks : (Channel.tlsFor b.issuer store).1 = i) : b.fault? store = match i with
      | .error e => some e
      | .ok _ => none := by
  rw [fault?, sound, Option.none_or]
  cases i with
  | error e => exact Channel.tlsFor_eq_error_iff.1 speaks
  | ok tls => exact none_of_ok (fun _ => Channel.tlsFor_eq_error_iff) speaks

theorem Builds.of_sourceless (e : TokenError) : Builds b store (.error e) [] (some (.error (.authInit e))) where
  sourceless := by
    rintro _ ⟨⟩
    exact ⟨rfl, rfl⟩
  faulty := by rintro _ _ ⟨⟩
  lazy := by rintro _ ⟨⟩
  eager := by rintro _ ⟨⟩

theorem Builds.of_fault {later : List Event} (fails : b.fault? store = some e)
    (here : later = if b.settingsFault?.isSome then [] else Channel.notes b.issuer b.dialOptions store) :
    Builds b store (.ok source) later (some (.error (.connection e))) where
  sourceless := nofun
  faulty := by
    rintro _ e' ⟨⟩ fails'
    obtain rfl := Option.some.inj (fails.symm.trans fails')
    exact ⟨rfl, here⟩
  lazy := by
    rintro _ ⟨⟩ sound
    rw [fails] at sound
    cases sound
  eager := by
    rintro _ ⟨⟩ sound
    rw [fails] at sound
    cases sound

theorem Builds.of_lazy (sound : b.fault? store = none) (waits : .lazy ∈ b.dialOptions) (conn : Connection) :
    Builds b store (.ok source)
      (Channel.notes b.issuer b.dialOptions store ++ [.logged (connected b.issuer)]) (some (.ok conn)) where
  sourceless := nofun
  faulty := by
    rintro _ e ⟨⟩ fails
    rw [sound] at fails
    cases fails
  lazy := fun _ _ _ _ => ⟨rfl, conn, rfl⟩
  eager := fun _ _ _ eager => absurd waits eager

theorem Builds.of_dialed (sound : b.fault? store = none) (eager : .lazy ∉ b.dialOptions) {later : List Event}
    (t : ConnectTarget) (e : ConnectEnd)
    (here : later = Channel.notes b.issuer b.dialOptions store ++ .connected t e :: e.log.map .logged ++
      (if e.result = .opened then [.logged (connected b.issuer)] else []))
    (ends : match e.result with
      | .opened => ∃ conn, r = some (.ok conn)
      | .failed _ => r = some (.error (.connection .unreachable))
      | .endless => r = none) : Builds b store (.ok source) later r where
  sourceless := nofun
  faulty := by
    rintro _ e ⟨⟩ fails
    rw [sound] at fails
    cases fails
  lazy := fun _ _ _ waits => absurd waits eager
  eager := fun _ _ _ _ => ⟨t, e, here, ends⟩

theorem sound_of_ok {endpoint : Endpoint} {tls : Option TlsSession} (named : b.issuer.originUri = .ok u)
    (set : Channel.endpointFor b.issuer b.dialOptions = .ok endpoint)
    (speaks : (Channel.tlsFor b.issuer store).1 = .ok tls) : b.fault? store = none :=
  fault?_of_sound (none_of_ok (fun _ => settingsFault?_eq_some_iff named) set) speaks

theorem not_mem_of_eager (eager : (SocketSettings.ofOptions b.dialOptions).lazy = false) : .lazy ∉ b.dialOptions := by
  rw [← SocketSettings.lazy_ofOptions, eager]
  exact Bool.false_ne_true

/-- What is logged of a channel once it is there. -/
def greeting (b : ClientBuilder) : Option (Except TransportError Channel) → List Event
  | some (.ok _) => [.logged (connected b.issuer)]
  | _ => []

/-- Once the origin has been read, the building goes as the opening of the channel goes. -/
theorem Builds.of_channel (named : b.issuer.originUri = .ok u) {made : Option (Except TransportError Channel)}
    (connects : Channel.Connects b.issuer source b.dialOptions store es made) :
    Builds b store (.ok source) (es ++ b.greeting made)
      (made.map fun m => (m.mapError ClientError.connection).map fun c => ⟨c, u⟩) := by
  cases connects with
  | endpoint fails =>
    have fault := (settingsFault?_eq_some_iff named).1 fails
    exact .of_fault (by rw [fault?, fault]; rfl) (by rw [fault]; rfl)
  | tls set fails =>
    have sound := none_of_ok (fun _ => settingsFault?_eq_some_iff named) set
    exact .of_fault (fault?_of_sound sound fails) (by rw [sound]; exact List.append_nil _)
  | lazy set speaks waits => exact .of_lazy (sound_of_ok named set speaks) (SocketSettings.lazy_ofOptions.1 waits) _
  | @dialed endpoint tls set speaks eager e =>
    refine .of_dialed (sound_of_ok named set speaks) (not_mem_of_eager eager)
      (Channel.ofSettings b.issuer source b.dialOptions endpoint tls).target e ?_ ?_
    · cases result : e.result <;> rfl
    · cases result : e.result with
      | opened => exact ⟨_, rfl⟩
      | failed => rfl
      | endless => rfl

theorem Builds.of_connects (connects : Connects b source store es r) : Builds b store (.ok source) es r := by
  cases connects with
  | origin fails =>
    have fault := settingsFault?_of_origin fails
    exact .of_fault (by rw [fault?, fault]; rfl) (by rw [fault]; rfl)
  | channel named fails =>
    rw [← List.append_nil es]
    exact .of_channel named fails
  | endless named waits =>
    rw [← List.append_nil es]
    exact .of_channel named waits
  | connected named connects => exact .of_channel named connects

/-- What the making of the token source, where there is to be one, does first. -/
def MakesSource (b : ClientBuilder) (w : World) (past first : List Event)
    (made : Except TokenError (Option TokenSource)) : Prop :=
  match b.auth with
  | none => first = [] ∧ made = .ok none
  | some a => ∃ source, (a.init b.issuer).run w past = (first.reverse ++ past, source) ∧ made = source.map some

theorem exists_makesSource (b : ClientBuilder) (w : World) (past : List Event) : ∃ first made,
    b.tokenSource.run w past = (first.reverse ++ past, made) ∧ b.MakesSource w past first made := by
  unfold tokenSource MakesSource
  cases b.auth with
  | none => exact ⟨[], .ok none, rfl, rfl, rfl⟩
  | some a =>
    obtain ⟨first, events, -⟩ := Procedure.ran_run w past (a.init b.issuer)
    refine ⟨first, ((a.init b.issuer).run w past).2.map some, ?_, _, Prod.ext events rfl, rfl⟩
    dsimp only
    rw [Procedure.run_bind, events]
    rfl

theorem exists_builds (b : ClientBuilder) (store : TrustStore) (w : World) (past : List Event) :
    ∃ first later made r, (b.connect store).run w past = ((first ++ later).reverse ++ past, r) ∧
      b.MakesSource w past first made ∧ Builds b store made later r := by
  obtain ⟨first, made, run, makes⟩ := b.exists_makesSource w past
  rw [connect, Procedure.run_bind, run]
  cases made with
  | error e =>
    refine ⟨first, [], .error e, some (.error (.authInit e)), ?_, makes, .of_sourceless e⟩
    rw [List.append_nil]
    rfl
  | ok source =>
    obtain ⟨later, events, ran⟩ := Procedure.ran_run w (first.reverse ++ past) (b.connectWith source store)
    refine ⟨first, later, .ok source, _, ?_, makes, .of_connects (ran_connectWith ran)⟩
    rw [List.reverse_append, List.append_assoc, ← events]

theorem dials_of_logged {es : List Event} (h : ∀ e ∈ es, ∃ r, e = .logged r) : Event.dials es = [] := by
  rw [Event.dials, List.filterMap_eq_nil_iff]
  intro e he
  obtain ⟨r, rfl⟩ := h e he
  rfl

theorem dials_notes (i : Issuer) (options : List DialOption) (store : TrustStore) :
    Event.dials (Channel.notes i options store) = [] :=
  dials_of_logged (by simp [Channel.notes])

/-- The connection is tried once at most, by a builder that is not lazy, after its token source has been made and all
checks have passed. -/
theorem Builds.dials {made : Except TokenError (Option TokenSource)} {later : List Event}
    (builds : Builds b store made later r) : Event.dials later = [] ∨
      ((∃ source, made = .ok source) ∧ b.fault? store = none ∧ .lazy ∉ b.dialOptions ∧ ∃ t e, Event.dials later = [(t, e)]) := by
  cases made with
  | error e =>
    obtain ⟨rfl, -⟩ := builds.sourceless e rfl
    exact .inl rfl
  | ok source =>
    cases fault : b.fault? store with
    | some e =>
      obtain ⟨-, rfl⟩ := builds.faulty source e rfl fault
      refine .inl ?_
      split
      · rfl
      · exact dials_notes ..
    | none =>
      by_cases waits : .lazy ∈ b.dialOptions
      · obtain ⟨rfl, -⟩ := builds.lazy source rfl fault waits
        refine .inl ?_
        rw [Event.dials, List.filterMap_append, ← Event.dials, dials_notes]
        rfl
      · obtain ⟨t, e, rfl, -⟩ := builds.eager source rfl fault waits
        refine .inr ⟨⟨source, rfl⟩, rfl, waits, t, e, ?_⟩
        have quiet : Event.dials (e.log.map .logged) = [] := dials_of_logged (by simp)
        have last : Event.dials (if e.result = .opened then [.logged (connected b.issuer)] else []) = [] :=
          dials_of_logged (by split <;> simp)
        rw [Event.dials] at quiet last ⊢
        rw [List.filterMap_append, List.filterMap_append, List.filterMap_cons, quiet, last, ← Event.dials, dials_notes]
        rfl

/-- Options behind one that cannot be applied are not looked at. -/
theorem connect_congr {before after other : List DialOption} {o : DialOption} (fails : o.fault? = some e)
    (options : b.dialOptions = before ++ o :: after) :
    ({ b with dialOptions := before ++ o :: other }.connect store).run w past = (b.connect store).run w past := by
  have refused : ∃ f, ∀ after endpoint, DialOption.applyAll (before ++ o :: after) endpoint = .error f := by
    have first (after : List DialOption) : (before ++ o :: after).findSome? DialOption.fault? =
        ((before ++ [o]).findSome? DialOption.fault?) := by
      rw [List.findSome?_append, List.findSome?_append, List.findSome?_cons, List.findSome?_cons, fails]
    obtain ⟨f, found⟩ : ∃ f, (before ++ [o]).findSome? DialOption.fault? = some f := by
      rw [List.findSome?_append, List.findSome?_cons, fails]
      cases before.findSome? DialOption.fault? <;> exact ⟨_, rfl⟩
    exact ⟨f, fun after endpoint => DialOption.applyAll_eq_error_iff.2 ((first after).trans found)⟩
  obtain ⟨f, refused⟩ := refused
  have same : ∃ f, ∀ after, Channel.endpointFor b.issuer (before ++ o :: after) = .error f := by
    unfold Channel.endpointFor
    split
    · exact ⟨_, fun _ => rfl⟩
    · split
      · exact ⟨_, fun _ => rfl⟩
      · exact ⟨f, fun after => refused after _⟩
  obtain ⟨f', same⟩ := same
  have connects : ({ b with dialOptions := before ++ o :: other } : ClientBuilder).connectWith = b.connectWith := by
    funext source store
    unfold connectWith Channel.connect
    rw [options]
    simp only [same]
  rw [connect, connect, connects]
  rfl

/-- A client, or a single stub, is built in this order: the token source is made, if there is to be one, then the
settings are checked, and then the connection is opened, unless the builder is lazy. The first step that fails decides
the error and is the last. -/
theorem build_stops_at_first_fault (b : ClientBuilder) (store : TrustStore) (w : World) (past : List Event) :
    ∃ first later made r, b.MakesSource w past first made ∧ Builds b store made later r ∧
      (b.connect store).run w past = ((first ++ later).reverse ++ past, r) ∧
      (b.build store).run w past = ((first ++ later).reverse ++ past, r.map (·.map Connection.client)) ∧
      (∀ v, (b.connectStub v store).run w past =
        ((first ++ later).reverse ++ past, r.map (·.map (Connection.stub · v)))) ∧
      (Event.dials later = [] ∨ ((∃ source, made = .ok source) ∧ b.fault? store = none ∧ .lazy ∉ b.dialOptions ∧
        ∃ t e, Event.dials later = [(t, e)])) ∧
      ∀ before o after e other, o.fault? = some e → b.dialOptions = before ++ o :: after →
        ({ b with dialOptions := before ++ o :: other }.connect store).run w past = (b.connect store).run w past := by
  obtain ⟨first, later, made, r, run, makes, builds⟩ := b.exists_builds store w past
  refine ⟨first, later, made, r, makes, builds, run, ?_, fun v => ?_, builds.dials, ?_⟩
  · rw [build, Procedure.run_bind, run]
    rfl
  · rw [connectStub, Procedure.run_bind, run]
    rfl
  · intro before o after e other fails options
    exact connect_congr fails options

end ClientBuilder

end IdentityClient
