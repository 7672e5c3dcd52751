import IdentityClient.Client.Registry
import IdentityClient.Proofs.Secrets.Init
import IdentityClient.Proofs.Secrets.Service

/-!
# What can be seen of a client does not depend on its secrets

A deployment is a token source with the services that ask it for tokens and a client. Whatever is done with two
deployments that are the same but for their secrets, all that can be seen of them stays the same: what is logged and how
settings, tokens, sources and services are rendered (`Deployment.looks_same`). One step leads from alike deployments to
alike ones (`Deployment.Alike.perform`), as each of its parts does.
-/

namespace IdentityClient

open List (Forall₂)

variable {ρ : Type}

/-- What a source has for a call that asks it: a refreshing source has what its own call `asked` has returned. -/
def TokenSource.answer? (asked : Refreshing.CallId) : TokenSource → Option (TokenOutcome × TokenSource)
  | .fixed t => some (.token t, .fixed t)
  | .supplied answer calls => some (answer calls, .supplied answer (calls + 1))
  | .refreshing x s => (s.outcome? asked).map fun o => (o, .refreshing x s)

theorem TokenSource.Alike.answer? {x x' : Option TokenSource} (h : Option.Rel Alike x x') (asked : Refreshing.CallId) :
    Option.Rel (fun a a' => a.1.redact = a'.1.redact ∧ Alike a.2 a'.2) (x.bind (·.answer? asked))
      (x'.bind (·.answer? asked)) := by
  cases h with
  | none => exact .none
  | some alike =>
    cases alike with
    | fixed token => exact .some ⟨congrArg TokenOutcome.token token, .fixed token⟩
    | supplied calls answers => exact .some ⟨answers calls, .supplied (calls + 1) answers⟩
    | @refreshing x x' s s' exchange state =>
      have outcomes : (s.outcome? asked).map TokenOutcome.redact = (s'.outcome? asked).map TokenOutcome.redact := by
        rw [← Refreshing.State.outcome?_redact, ← Refreshing.State.outcome?_redact, state]
      simp only [Option.bind_some, TokenSource.answer?]
      cases given : s.outcome? asked <;> cases given' : s'.outcome? asked <;> rw [given, given'] at outcomes
      · exact .none
      · cases outcomes
      · cases outcomes
      · exact .some ⟨Option.some.inj outcomes, .refreshing exchange state⟩

/-- The tokens that a refreshing source holds or has given out. -/
def Refreshing.State.tokensSeen (s : Refreshing.State) : List AccessToken :=
  s.cached.toList ++ s.history.filterMap fun e => match e with
    | .returned _ (.token t) => some t
    | _ => none

theorem Refreshing.State.tokensSeen_redact (s : Refreshing.State) :
    s.redact.tokensSeen = s.tokensSeen.map AccessToken.redact := by
  have given (e : Refreshing.Event) : (match e.redact with
      | .returned _ (.token t) => some t
      | _ => none) = (match e with
      | .returned _ (.token t) => some t
      | _ => none : Option AccessToken).map AccessToken.redact := by
    cases e with
    | returned c o => cases o <;> rfl
    | _ => rfl
  simp only [tokensSeen, redact, List.map_append, List.filterMap_map, List.map_filterMap, Function.comp_def, given]
  cases s.cached <;> rfl

/-- The tokens that a source holds or has given out. -/
def TokenSource.tokensSeen : TokenSource → List AccessToken
  | .fixed t => [t]
  | .supplied _ _ => []
  | .refreshing _ s => s.tokensSeen

theorem TokenSource.Alike.render_tokensSeen {x x' : TokenSource} (h : x.Alike x') (instant : Instant → String) :
    x.tokensSeen.map (·.render instant) = x'.tokensSeen.map (·.render instant) := by
  have blotted : x.tokensSeen.map AccessToken.redact = x'.tokensSeen.map AccessToken.redact := by
    cases h with
    | fixed token => exact congrArg ([·]) token
    | supplied => rfl
    | refreshing exchange state =>
      simp only [tokensSeen]
      rw [← Refreshing.State.tokensSeen_redact, state, Refreshing.State.tokensSeen_redact]
  have shown := congrArg (List.map (·.render instant)) blotted
  simpa only [List.map_map, Function.comp_def, AccessToken.render_redact] using shown

/-- A refreshing source, rendered with a text for each endpoint. -/
def TokenSource.render? (endpoint : TokenEndpoint → String) : TokenSource → Option String
  | .refreshing x s => some (s.render (x.render (endpoint x.endpoint)))
  | .fixed _ | .supplied _ _ => none

theorem TokenSource.Alike.render? {x x' : TokenSource} (h : x.Alike x') (endpoint : TokenEndpoint → String) :
    x.render? endpoint = x'.render? endpoint := by
  cases h with
  | fixed | supplied => rfl
  | refreshing exchange state =>
    simp only [TokenSource.render?]
    rw [exchange.endpoint, exchange.render, ← Refreshing.State.render_redact, state, Refreshing.State.render_redact]

structure Deployment (ρ : Type) where
  source : Option TokenSource
  service : Credentials.State ρ
  client : Client
  /-- What has happened between it and the outside, the latest first. -/
  past : List Event

namespace Deployment

/-- What can be done with a deployment. -/
inductive Op (ρ : Type) where
  /-- A token source is made. -/
  | init (a : Auth) (i : Issuer) (w : World)
  | source (a : Refreshing.Act)
  /-- The exchange of a call of the source is made. -/
  | exchange (c : Refreshing.CallId) (w : World)
  | service (a : Credentials.Action ρ)
  /-- A call of a service gets what the source has returned. -/
  | fetch (c : Credentials.CallId) (asked : Refreshing.CallId)
  | access (t : Slot.Thread) (v : ApiService) (panics : Bool)

/-- Logs records. -/
def say (d : Deployment ρ) (records : List LogRecord) : Deployment ρ :=
  { d with past := (records.map Event.logged).reverse ++ d.past }

def drive (d : Deployment ρ) (a : Refreshing.Act) : Deployment ρ :=
  match d.source with
  | some (.refreshing x s) =>
    { d with source := some (.refreshing x (s.perform a)) }.say ((s.perform a).log.drop s.log.length)
  | _ => d

def serve (d : Deployment ρ) (a : Credentials.Action ρ) : Deployment ρ :=
  { d with service := d.service.perform a }.say ((d.service.perform a).log.drop d.service.log.length)

def perform (d : Deployment ρ) : Op ρ → Deployment ρ
  | .init a i w =>
    let ran := (a.init i).run w d.past
    { d with past := ran.1, source := ran.2.toOption.or d.source }
  | .source a => d.drive a
  | .exchange c w =>
    match d.source with
    | some (.refreshing x s) =>
      if s.phase c = .exchanging then
        let ran := x.run.run w d.past
        { d with past := ran.1 }.drive (.finish c ran.2)
      else d
    | _ => d
  | .service a => d.serve a
  | .fetch c asked =>
    match d.source.bind (·.answer? asked) with
    | some (o, source) => { d with source := some source }.serve (.fetched c o)
    | none => d
  | .access t v panics =>
    let client := (d.client.access t v panics).1
    { d with client }.say (client.log.drop d.client.log.length)

def play (d : Deployment ρ) (ops : List (Op ρ)) : Deployment ρ := ops.foldl perform d

/-- Texts for what a rendering leaves to others. -/
structure Texts where
  instant : Instant → String
  endpoint : TokenEndpoint → String
  inner : String

/-- What can be seen of a deployment. -/
structure Sight where
  log : List LogRecord
  source : Option String
  /-- They show when each token expires, which the record of its being obtained is written with. -/
  tokens : List String
  credentials : String
  service : String
  layer : String
  client : String
  deriving DecidableEq

def sight (d : Deployment ρ) (texts : Texts) : Sight where
  log := Event.records d.past
  source := d.source.bind (·.render? texts.endpoint)
  tokens := (d.source.toList.flatMap (·.tokensSeen)).map (·.render texts.instant)
  credentials := d.service.credentials.render
  service := d.service.render texts.inner
  layer := Credentials.renderLayer d.service.credentials
  client := d.client.render

/-- The setting that a source is made from, rendered, with its key if it has one. -/
def Op.setting : Op ρ → Option (String × Option String)
  | .init a _ _ => some (a.render, match a with
      | .jwtProfile key _ => some key.render
      | _ => none)
  | _ => none

structure Alike (d d' : Deployment ρ) : Prop where
  source : Option.Rel TokenSource.Alike d.source d'.source
  service : d.service.redact = d'.service.redact
  client : d.client = d'.client
  past : Forall₂ Event.Alike d.past d'.past

/-- Two operations that are the same but for secrets. -/
inductive Op.Alike : Op ρ → Op ρ → Prop where
  | init {a a' : Auth} {w w' : World} (i : Issuer) (settings : a.Alike a') (worlds : w.Alike w') :
      Alike (.init a i w) (.init a' i w')
  | source {a a' : Refreshing.Act} (acts : a.redact = a'.redact) : Alike (.source a) (.source a')
  | exchange {w w' : World} (c : Refreshing.CallId) (worlds : w.Alike w') : Alike (.exchange c w) (.exchange c w')
  | service {a a' : Credentials.Action ρ} (actions : a.redact = a'.redact) : Alike (.service a) (.service a')
  | fetch (c : Credentials.CallId) (asked : Refreshing.CallId) : Alike (.fetch c asked) (.fetch c asked)
  | access (t : Slot.Thread) (v : ApiService) (panics : Bool) : Alike (.access t v panics) (.access t v panics)

variable {d d' : Deployment ρ} {o o' : Op ρ} {os os' : List (Op ρ)}

namespace Alike

theorem say (h : d.Alike d') (records : List LogRecord) : (d.say records).Alike (d'.say records) where
  source := h.source
  service := h.service
  client := h.client
  past := by
    refine List.rel_append ?_ h.past
    rw [List.forall₂_same]
    intro e he
    obtain ⟨r, -, rfl⟩ := List.mem_map.1 (List.mem_reverse.1 he)
    exact .logged r

theorem drive (h : d.Alike d') {a a' : Refreshing.Act} (acts : a.redact = a'.redact) : (d.drive a).Alike (d'.drive a') := by
  have sources := h.source
  unfold Deployment.drive
  generalize d.source = source at sources
  generalize d'.source = source' at sources
  cases sources with
  | none => exact h
  | some alike =>
    cases alike with
    | fixed | supplied => exact h
    | @refreshing x x' s s' exchange state =>
      have after : (s.perform a).redact = (s'.perform a').redact := by
        rw [Refreshing.State.redact_perform, Refreshing.State.redact_perform, state, acts]
      have logged : (s.perform a).log.drop s.log.length = (s'.perform a').log.drop s'.log.length := by
        rw [Refreshing.State.log_eq_of_redact after, Refreshing.State.log_eq_of_redact state]
      have driven : Alike { d with source := some (.refreshing x (s.perform a)) }
          { d' with source := some (.refreshing x' (s'.perform a')) } :=
        ⟨.some (.refreshing exchange after), h.service, h.client, h.past⟩
      dsimp only
      rw [logged]
      exact driven.say _

theorem serve (h : d.Alike d') {a a' : Credentials.Action ρ} (actions : a.redact = a'.redact) :
    (d.serve a).Alike (d'.serve a') := by
  have after : (d.service.perform a).redact = (d'.service.perform a').redact := by
    rw [← Credentials.State.redact_perform d.service, h.service, actions, Credentials.State.redact_perform]
  have logged : (d.service.perform a).log.drop d.service.log.length =
      (d'.service.perform a').log.drop d'.service.log.length := by
    rw [Credentials.State.log_eq_of_redact after, Credentials.State.log_eq_of_redact h.service]
  have served : Alike { d with service := d.service.perform a } { d' with service := d'.service.perform a' } :=
    ⟨h.source, after, h.client, h.past⟩
  unfold Deployment.serve
  rw [logged]
  exact served.say _

theorem init (h : d.Alike d') {a a' : Auth} {w w' : World} (i : Issuer) (settings : a.Alike a') (worlds : w.Alike w') :
    (d.perform (.init a i w)).Alike (d'.perform (.init a' i w')) := by
  obtain ⟨past, made⟩ := (settings.init i).run worlds h.past
  refine ⟨?_, h.service, h.client, past⟩
  dsimp only [Deployment.perform]
  generalize ((a.init i).run w d.past).2 = r at made
  generalize ((a'.init i).run w' d'.past).2 = r' at made
  cases made with
  | ok source => exact .some source
  | error e => exact h.source

theorem exchange (h : d.Alike d') {w w' : World} (c : Refreshing.CallId) (worlds : w.Alike w') :
    (d.perform (.exchange c w)).Alike (d'.perform (.exchange c w')) := by
  have sources := h.source
  unfold Deployment.perform
  dsimp only
  generalize d.source = source at sources
  generalize d'.source = source' at sources
  cases sources with
  | none => exact h
  | some alike =>
    cases alike with
    | fixed | supplied => exact h
    | @refreshing x x' s s' exchange state =>
      have phase : s.phase c = .exchanging ↔ s'.phase c = .exchanging := by
        rw [← Refreshing.Phase.redact_eq_exchanging_iff, ← Refreshing.State.redact_phase, state,
          Refreshing.State.redact_phase, Refreshing.Phase.redact_eq_exchanging_iff]
      obtain ⟨past, outcome⟩ := exchange.run.run worlds h.past
      have ends : (Refreshing.Act.finish c (x.run.run w d.past).2).redact =
          (Refreshing.Act.finish c (x'.run.run w' d'.past).2).redact :=
        congrArg (Refreshing.Act.finish c) outcome
      have ran : Alike { d with source := some (.refreshing x s), past := (x.run.run w d.past).1 }
          { d' with source := some (.refreshing x' s'), past := (x'.run.run w' d'.past).1 } :=
        ⟨.some (.refreshing exchange state), h.service, h.client, past⟩
      dsimp only
      by_cases waits : s.phase c = .exchanging
      · rw [if_pos waits, if_pos (phase.1 waits)]
        exact ran.drive ends
      · rw [if_neg waits, if_neg fun waits' => waits (phase.2 waits')]
        exact h

theorem fetch (h : d.Alike d') (c : Credentials.CallId) (asked : Refreshing.CallId) :
    (d.perform (.fetch c asked)).Alike (d'.perform (.fetch c asked)) := by
  have answers := TokenSource.Alike.answer? h.source asked
  unfold Deployment.perform
  dsimp only
  generalize d.source.bind (·.answer? asked) = answer at answers
  generalize d'.source.bind (·.answer? asked) = answer' at answers
  cases answers with
  | none => exact h
  | @some a a' alike =>
    have taken : Alike { d with source := some a.2 } { d' with source := some a'.2 } :=
      ⟨.some alike.2, h.service, h.client, h.past⟩
    have fetched : (Credentials.Action.fetched c a.1 : Credentials.Action ρ).redact =
        (Credentials.Action.fetched c a'.1).redact :=
      congrArg (Credentials.Action.fetched c) alike.1
    exact taken.serve fetched

/-- One step leads from alike deployments to alike ones. -/
theorem perform (h : d.Alike d') (op : o.Alike o') : (d.perform o).Alike (d'.perform o') := by
  cases op with
  | init i settings worlds => exact h.init i settings worlds
  | source acts => exact h.drive acts
  | exchange c worlds => exact h.exchange c worlds
  | service actions => exact h.serve actions
  | fetch c asked => exact h.fetch c asked
  | access t v panics =>
    have asked : Alike { d with client := (d.client.access t v panics).1 }
        { d' with client := (d'.client.access t v panics).1 } :=
      ⟨h.source, h.service, by rw [h.client], h.past⟩
    unfold Deployment.perform
    dsimp only
    rw [h.client] at asked ⊢
    exact asked.say _

theorem play (h : d.Alike d') (ops : Forall₂ Op.Alike os os') : (d.play os).Alike (d'.play os') := by
  induction ops generalizing d d' with
  | nil => exact h
  | cons op _ ih => exact ih (h.perform op)

end Alike

theorem Alike.sight (h : d.Alike d') (texts : Texts) : d.sight texts = d'.sight texts := by
  have credentials : d.service.credentials = d'.service.credentials := by
    change d.service.redact.credentials = d'.service.redact.credentials
    rw [h.service]
  have sources := h.source
  unfold Deployment.sight Credentials.State.render
  rw [Event.records_eq h.past, credentials, h.client]
  generalize d.source = source at sources
  generalize d'.source = source' at sources
  cases sources with
  | none => rfl
  | some alike =>
    simp only [Option.bind_some, Option.toList_some, List.flatMap_singleton, alike.render?, alike.render_tokensSeen]

theorem Op.Alike.setting (h : o.Alike o') : o.setting = o'.setting := by
  cases h with
  | init i settings =>
    cases settings with
    | jwtProfile scopes key => simp only [Op.setting, (Auth.Alike.jwtProfile scopes key).render, key.render]
    | personalAccessToken | password | custom => rfl
  | source | exchange | service | fetch | access => rfl

/-- Whatever is done with two deployments that are the same but for their secrets, what is logged and rendered of them
is the same, and so are the settings, rendered. -/
theorem looks_same (h : d.Alike d') (ops : Forall₂ Op.Alike os os') (texts : Texts) :
    (d.play os).sight texts = (d'.play os').sight texts ∧ os.map Op.setting = os'.map Op.setting := by
  refine ⟨(h.play ops).sight texts, ?_⟩
  induction ops with
  | nil => rfl
  | cons op _ ih => rw [List.map_cons, List.map_cons, op.setting, ih]

/-- Two clients with different secrets, which are given different tokens, make their first call. -/
theorem looks_same_password :
    let world (secret : String) : World := { World.silent with reply := fun _ r => .replied ⟨⟨200⟩, none, some (Utf8.encode
      (match r.method with
      | .get => "\x7b\"token_endpoint\":\"https://a/token\"\x7d"
      | .post => "\x7b\"access_token\":\"" ++ secret ++ "\",\"expires_in\":3600\x7d"))⟩ }
    let r : Request := ⟨"POST", ⟨some .https, some "a", ⟨"/svc/Method", none⟩⟩, [], []⟩
    let ops (password secret : String) : List (Op Nat) :=
      [.init (.password ⟨"user", password⟩ ["openid"]) (.ofDomain "a") (world secret), .access 0 .auth false,
        .service (.ready 0), .service (.call 0 0 r), .service (.begin 0),
        .source (.call 7), .source (.next 7), .source (.next 7), .fetch 0 7]
    let d : Deployment Nat := ⟨none, .initial ⟨true, true⟩, .ofOrigin r.uri, []⟩
    let texts : Texts := ⟨fun i => toString i.nanos, fun e => e.url.render, "inner"⟩
    let seen (password secret : String) : Sight := (d.play (ops password secret)).sight texts
    let sent (password secret : String) : List HeaderValue :=
      ((d.play (ops password secret)).service.sent 0).flatMap fun q => q.1.headers.getAll Request.authorization
    seen "one" "x" = seen "two" "y" ∧ sent "one" "x" ≠ sent "two" "y" ∧ (seen "one" "x").log.map (·.text) =
      ["initializing client credentials token source for https://a", "discovered token endpoint https://a/token",
        "obtained access token", "constructing zitadel.auth.v1.AuthService client"] := by
  intro world r ops d texts seen sent
  have worlds : (world "x").Alike (world "y") := by
    refine ⟨fun _ => rfl, fun {_ _ r r'} _ requests => ?_, fun _ _ => rfl⟩
    dsimp only [world]
    rw [← requests.method]
    cases r.method with
    | get => exact .same _
    | post =>
      exact .granted (x := [("expires_in", .word 3600), ("access_token", .text "x")])
        (y := [("expires_in", .word 3600), ("access_token", .text "y")]) rfl rfl rfl (by decide +kernel)
        (by decide +kernel) rfl rfl (.of_valid (by decide) (by decide) (by decide +kernel) (by decide +kernel))
  have same : d.Alike d := ⟨.none, rfl, rfl, .nil⟩
  have ops_alike : Forall₂ Op.Alike (ops "one" "x") (ops "two" "y") :=
    .cons (.init _ (.password "user" "one" "two" _) worlds) (.cons (.access ..) (.cons (.service rfl)
      (.cons (.service rfl) (.cons (.service rfl) (.cons (.source rfl) (.cons (.source rfl) (.cons (.source rfl)
        (.cons (.fetch ..) .nil))))))))
  exact ⟨(looks_same same ops_alike texts).1, by decide +kernel, by decide +kernel⟩

end Deployment

end IdentityClient
