import IdentityClient.Proofs.Client.Connect
import IdentityClient.Proofs.Issuer.Origin
import IdentityClient.Proofs.Net.Target

/-!
# An issuer's origin as a request target

URLs know more names than request targets do, and longer ones: an issuer that was read as a URL forms a target exactly
if its domain holds no refused character and its origin is not too long (`Issuer.FormsUri`). Whether it does shows no
earlier than when a client is built. A target that is formed names the issuer (`Issuer.NamedBy`).
-/

namespace IdentityClient

namespace Issuer

variable {i : Issuer} {h : Host} {text : String}

def FormsUri (i : Issuer) : Prop :=
  i.domain.toList.any Authority.isRefused = false ∧ i.origin.utf8ByteSize ≤ Uri.maxLength

/-- A target that leads to the issuer. -/
structure NamedBy (i : Issuer) (u : Uri) : Prop where
  scheme : u.scheme = some (if i.tls then .https else .http)
  host : (∀ a : Ipv6, i.domain ≠ a.render) → u.host? = some i.domain
  bracketed : ∀ a : Ipv6, i.domain = a.render → u.host? = some ("[" ++ i.domain ++ "]")
  port : u.port?.getD i.defaultPort = i.port
  path : u.path = "/"

theorem Sited.any_isRefused (s : Sited i h) :
    h.written.any Authority.isRefused = i.domain.toList.any Authority.isRefused := by
  cases h with
  | domain name => rw [← s.domain_eq]; rfl
  | ipv4 a =>
    have domain : a.render = i.domain := Option.some.inj s.domain
    rw [← domain]; rfl
  | ipv6 a =>
    have domain : a.render = i.domain := Option.some.inj s.domain
    have opening : Authority.isRefused '[' = false := by decide
    have closing : Authority.isRefused ']' = false := by decide
    simp [Host.written, ← domain, opening, closing]

/-- The target of an issuer, if it has one. -/
def target (i : Issuer) (h : Host) : Uri :=
  ⟨some (if i.tls then .https else .http), some (String.ofList (h.written ++ portText i.shownPort)), ⟨"", none⟩⟩

theorem Sited.originUri_eq (s : Sited i h) : i.originUri =
    if Uri.maxLength < i.origin.utf8ByteSize then .error (.uri .tooLong)
    else if i.domain.toList.any Authority.isRefused then .error (.uri .badCharacter) else .ok (i.target h) := by
  obtain ⟨cs, read⟩ := s.read
  rw [originUri, Uri.parse_site s.origin_eq read, s.any_isRefused]
  by_cases long : Uri.maxLength < i.origin.utf8ByteSize
  · rw [if_pos long, if_pos long]
  · rw [if_neg long, if_neg long]
    cases i.domain.toList.any Authority.isRefused <;> rfl

theorem Sited.authorityHost_of_other (s : Sited i h) (other : ∀ a : Ipv6, i.domain ≠ a.render) :
    i.authorityHost = i.domain := by
  obtain ⟨cs, read⟩ := s.read
  obtain ⟨a, rfl⟩ | names := Host.bracketed_or_plain read
  · exact absurd (Option.some.inj s.domain).symm (other a)
  · have no_bracket : '[' ∉ i.authorityHost.toList := by
      rw [s.authorityHost_eq]
      exact fun hc => (names '[' hc).ne.2.1 rfl
    rw [authorityHost] at no_bracket ⊢
    split at no_bracket
    · simp at no_bracket
    · exact if_neg ‹_›

theorem Sited.namedBy (s : Sited i h) : NamedBy i (i.target h) := by
  obtain ⟨cs, read⟩ := s.read
  have host : (i.target h).host? = some i.authorityHost := by
    rw [target, Uri.host?, Option.map_some, Authority.host_written read, ← s.authorityHost_eq, String.ofList_toList]
  have port : (i.target h).port? = i.shownPort := Authority.port?_written read s.shownPort_le
  refine ⟨rfl, ?_, ?_, ?_, ?_⟩
  · intro other
    rw [host, s.authorityHost_of_other other]
  · intro a domain
    have colon : ':' ∈ i.domain.toList := domain ▸ a.colon_mem_render
    simp [host, authorityHost, colon]
  · rw [port, shownPort]
    split <;> simp_all
  · rfl

theorem Sited.originUri_of_formsUri (s : Sited i h) (forms : FormsUri i) : i.originUri = .ok (i.target h) := by
  rw [s.originUri_eq, if_neg (Nat.not_lt.2 forms.2), if_neg (by rw [forms.1]; exact Bool.false_ne_true)]

/-! ### Building a client -/

/-- The network address is a target as soon as the origin is, unless it is too long. -/
theorem Sited.address_ok (s : Sited i h) (forms : FormsUri i)
    (short : ("http://" ++ i.address).utf8ByteSize ≤ Uri.maxLength) :
    ∃ u, Uri.parse ("http://" ++ i.address) = .ok u := by
  obtain ⟨cs, read⟩ := s.read
  have site : ("http://" ++ i.address).toList = siteText (webScheme false) h (some i.port) := by
    simp [address, siteText, portText, s.authorityHost_eq, webScheme]
  rw [Uri.parse_site site read, if_neg (Nat.not_lt.2 short), s.any_isRefused, forms.1]
  exact ⟨_, rfl⟩

/-- With an origin and an address that are targets, what is left to fail is no matter of URIs. -/
theorem Sited.error_of_connects {b : ClientBuilder} {source : Option TokenSource} {store : TrustStore} {es : List Event}
    {e : TransportError} (s : Sited b.issuer h) (forms : FormsUri b.issuer)
    (short : ("http://" ++ b.issuer.address).utf8ByteSize ≤ Uri.maxLength)
    (fails : ClientBuilder.Connects b source store es (some (.error (.connection e)))) : (∃ d, e = .dialOption d) ∨
      (b.issuer.tls = true ∧ (e = .noRoots ∨ e = .serverName b.issuer.domain)) ∨ e = .unreachable := by
  have origin := s.originUri_of_formsUri forms
  obtain ⟨u, address⟩ := s.address_ok forms short
  cases fails with
  | origin fails =>
    rw [origin] at fails
    cases fails
  | channel _ fails =>
    rcases fails.error with fails | fails | rfl
    · rcases Channel.error_of_endpointFor fails with ⟨⟨f, refused⟩, -⟩ | refused | dial
      · rw [address] at refused
        cases refused
      · rw [origin] at refused
        cases refused
      · exact .inl dial
    · exact .inr (.inl (Channel.error_of_tlsFor fails))
    · exact .inr (.inr rfl)

/-- An issuer that was read forms a target exactly if the characters and the length of its origin allow it, and then
the target names the issuer. A client is not built for an issuer that forms none: after its token source is made, this
is the error. For any other issuer, with an address of no excessive length, neither origin nor address can be the error. -/
theorem originUri_of_parse (parsed : parse text = .ok i) :
    (FormsUri i → ∃ u, i.originUri = .ok u ∧ NamedBy i u) ∧
    (¬ FormsUri i → ∃ e, i.originUri = .error (.uri e) ∧
      e = (if Uri.maxLength < i.origin.utf8ByteSize then UriFault.tooLong else .badCharacter) ∧
      ∀ (b : ClientBuilder) (store : TrustStore) (w : World) (past : List Event) (source : Option TokenSource),
        b.issuer = i → (b.tokenSource.run w past).2 = .ok source →
          ((b.connect store).run w past).2 = some (.error (.connection (.uri e)))) ∧
    (FormsUri i → ("http://" ++ i.address).utf8ByteSize ≤ Uri.maxLength →
      ∀ (b : ClientBuilder) (store : TrustStore) (w : World) (past : List Event) (e : TransportError),
        b.issuer = i → ((b.connect store).run w past).2 = some (.error (.connection e)) →
          (∃ d, e = .dialOption d) ∨ (i.tls = true ∧ (e = .noRoots ∨ e = .serverName i.domain)) ∨ e = .unreachable) := by
  obtain ⟨h, s⟩ := Sited.of_parse parsed
  refine ⟨fun forms => ⟨_, s.originUri_of_formsUri forms, s.namedBy⟩, ?_, ?_⟩
  · intro forms_not
    have failed : i.originUri =
        .error (.uri (if Uri.maxLength < i.origin.utf8ByteSize then .tooLong else .badCharacter)) := by
      rw [s.originUri_eq]
      by_cases long : Uri.maxLength < i.origin.utf8ByteSize
      · rw [if_pos long, if_pos long]
      · have refused : i.domain.toList.any Authority.isRefused = true := by
          by_contra clean
          exact forms_not ⟨by simpa using clean, Nat.not_lt.1 long⟩
        rw [if_neg long, if_neg long, if_pos refused]
    refine ⟨_, failed, rfl, ?_⟩
    rintro b store w past source rfl made
    rw [ClientBuilder.connect, Procedure.run_bind, made]
    simp only [ClientBuilder.connectWith, failed]
    rfl
  · rintro forms short b store w past e rfl fails
    obtain ⟨es, -, ran⟩ := Procedure.ran_run w past (b.connect store)
    rw [fails] at ran
    obtain ⟨e', -, auth⟩ | ⟨first, later, source, -, -, connects⟩ := ClientBuilder.ran_connect ran
    · cases auth
    · exact s.error_of_connects forms short connects

theorem originUri_of_parse_port : parse "https://example.com:8443" = .ok ⟨"example.com", 8443, true, false⟩ ∧
    ∃ u, originUri ⟨"example.com", 8443, true, false⟩ = .ok u ∧ NamedBy ⟨"example.com", 8443, true, false⟩ u := by
  have parsed : parse "https://example.com:8443" = .ok ⟨"example.com", 8443, true, false⟩ :=
    eq_ok_of_toOption (by decide +kernel)
  have forms : FormsUri ⟨"example.com", 8443, true, false⟩ := ⟨by decide, by decide +kernel⟩
  exact ⟨parsed, (originUri_of_parse parsed).1 forms⟩

/-- A name with a brace is read as a domain, and forms no target. -/
theorem originUri_of_brace : parse "https://a\x7bb" = .ok ⟨"a\x7bb", 443, true, false⟩ ∧
    originUri ⟨"a\x7bb", 443, true, false⟩ = .error (.uri .badCharacter) := by
  have parsed : parse "https://a\x7bb" = .ok ⟨"a\x7bb", 443, true, false⟩ := eq_ok_of_toOption (by decide +kernel)
  obtain ⟨h, s⟩ := Sited.of_parse parsed
  have short : ¬ Uri.maxLength < (origin ⟨"a\x7bb", 443, true, false⟩).utf8ByteSize := by decide +kernel
  have refused : (⟨"a\x7bb", 443, true, false⟩ : Issuer).domain.toList.any Authority.isRefused = true := by decide
  exact ⟨parsed, by rw [s.originUri_eq, if_neg short, if_pos refused]⟩

end Issuer

end IdentityClient
