import IdentityClient.Issuer
import IdentityClient.Proofs.Net.Site

/-!
# An issuer's origin names the issuer

What an issuer was read from had a host (`Issuer.Sited`), and no change of port, TLS or certificate checks loses it. Its
origin is then the text of a site with that host, and is read as the issuer again; only that any certificate is accepted
is not written there.
-/

namespace IdentityClient

variable {c : Char} {cs : List Char} {text : String} {h : Host} {u : Url}

theorem eq_ok_of_toOption {ε α : Type} {r : Except ε α} {a : α} (h : r.toOption = some a) : r = .ok a := by
  cases r with
  | error e => cases h
  | ok b => exact congrArg Except.ok (Option.some.inj h)

theorem not_blank_of_graphic (graphic : 0x20 < c.toNat ∧ c.toNat < 0x7f) : isBlank c = false := by
  obtain ⟨low, high⟩ := graphic
  simp only [isBlank, Bool.or_eq_false_iff, Bool.and_eq_false_iff, decide_eq_false_iff_not, beq_eq_false_iff_ne]
  omega

namespace Issuer

variable {i : Issuer}

/-! ### The host of an issuer -/

/-- The issuer's domain is a host that was read, and its port is a port number. -/
structure Sited (i : Issuer) (h : Host) : Prop where
  read : ∃ cs, Host.parse cs = .ok h
  domain : domainOf? (some h) = some i.domain
  port : i.port ≤ 65535

theorem tls_of_schemeTls? {scheme : String} {tls : Bool} (web : schemeTls? scheme = some tls) :
    scheme = webScheme tls := by
  unfold schemeTls? at web
  split at web
  · rw [← Option.some.inj web]; assumption
  · split at web
    · rw [← Option.some.inj web]; assumption
    · cases web

theorem ofUrl_eq_ok (named : ofUrl u = .ok i) : u.scheme = webScheme i.tls ∧ domainOf? u.host = some i.domain ∧
    i.port = u.port.getD i.defaultPort ∧ i.skipVerify = false := by
  unfold ofUrl at named
  split at named
  · cases named
  · split at named
    · cases named
    · split at named
      · cases named
      · split at named
        · cases named
        · split at named
          · cases named
          · rename_i tls web
            split at named
            · cases named
            · rename_i domain
              cases named
              exact ⟨tls_of_schemeTls? web, domain, rfl, rfl⟩

theorem Sited.of_parse (parsed : parse text = .ok i) : ∃ h, Sited i h := by
  unfold parse at parsed
  split at parsed
  · cases parsed
  · rename_i u url
    obtain ⟨scheme, domain, port, -⟩ := ofUrl_eq_ok parsed
    obtain ⟨⟨cs, h, read, host⟩, small⟩ := Url.host_of_parseChars url scheme
    refine ⟨h, ⟨cs, read⟩, host ▸ domain, ?_⟩
    rw [port]
    cases kept : u.port with
    | some n => exact small n kept
    | none =>
      rw [Option.getD_none, defaultPort]
      split <;> decide

/-! ### Changes -/

/-- A change that a caller makes to an issuer. A port has 16 bits. -/
inductive Change where
  | withPort (port : UInt16)
  | insecure (port : UInt16)
  | acceptAnyCertificate

def Change.apply (i : Issuer) : Change → Issuer
  | .withPort port => i.withPort port.toNat
  | .insecure port => i.insecure port.toNat
  | .acceptAnyCertificate => i.acceptAnyCertificate

/-- The issuer after changes in order. -/
def after (i : Issuer) (changes : List Change) : Issuer := changes.foldl Change.apply i

theorem Sited.apply (s : Sited i h) (change : Change) : Sited (change.apply i) h := by
  cases change with
  | withPort port => exact ⟨s.read, s.domain, Nat.le_of_lt_succ port.toNat_lt⟩
  | insecure port => exact ⟨s.read, s.domain, Nat.le_of_lt_succ port.toNat_lt⟩
  | acceptAnyCertificate => exact ⟨s.read, s.domain, s.port⟩

theorem Sited.after (s : Sited i h) (changes : List Change) : Sited (i.after changes) h := by
  induction changes generalizing i with
  | nil => exact s
  | cons change changes ih => exact ih (s.apply change)

theorem after_domain (i : Issuer) (changes : List Change) : (i.after changes).domain = i.domain := by
  induction changes generalizing i with
  | nil => rfl
  | cons change changes ih =>
    rw [Issuer.after, List.foldl_cons, ← Issuer.after, ih]
    cases change <;> rfl

/-! ### The origin as a site -/

/-- The port that an origin shows. -/
def shownPort (i : Issuer) : Option Nat := if i.port = i.defaultPort then none else some i.port

theorem Sited.domain_eq {name : String} (s : Sited i (.domain name)) : name = i.domain := by
  have domain := s.domain
  simp only [domainOf?] at domain
  split at domain
  · cases domain
  · exact Option.some.inj domain

theorem Sited.authorityHost_eq (s : Sited i h) : i.authorityHost.toList = h.written := by
  obtain ⟨cs, read⟩ := s.read
  have no_colon (name : String) (names : ∀ c ∈ name.toList, Idna.IsNameChar c) : ':' ∉ name.toList :=
    fun hc => (names ':' hc).ne.1 rfl
  cases h with
  | domain name =>
    simp [authorityHost, ← s.domain_eq, Host.written, no_colon name (Host.domain_of_parse read).2.2]
  | ipv4 a =>
    have domain : a.render = i.domain := Option.some.inj s.domain
    simp [authorityHost, ← domain, Host.written, no_colon a.render fun c hc => Host.isNameChar_of_ipv4 hc]
  | ipv6 a =>
    have domain : a.render = i.domain := Option.some.inj s.domain
    simp [authorityHost, ← domain, Host.written, a.colon_mem_render]

theorem Sited.origin_eq (s : Sited i h) : i.origin.toList = siteText (webScheme i.tls) h i.shownPort := by
  rw [origin, shownPort]
  split
  · simp [siteText, portText, s.authorityHost_eq, scheme, webScheme]
  · simp [siteText, portText, s.authorityHost_eq, scheme, webScheme]

/-! ### Reading it back -/

theorem hasInfix_append {part : List Char} (cs rest : List Char) : hasInfix part (cs ++ (part ++ rest)) = true := by
  have here : part.isPrefixOf (part ++ rest) = true := List.isPrefixOf_iff_prefix.2 (List.prefix_append part rest)
  induction cs with
  | nil =>
    rw [List.nil_append]
    cases text : part ++ rest with
    | nil => simp [hasInfix, (List.append_eq_nil_iff.1 text).1]
    | cons c cs => rw [hasInfix, ← text, here, Bool.true_or]
  | cons c cs ih => rw [List.cons_append, hasInfix, ih, Bool.or_true]

/-- A text with a scheme and without blanks is taken as it is. -/
theorem completeUrl_siteText {tls : Bool} {port? : Option Nat} (read : Host.parse cs = .ok h) :
    completeUrl (siteText (webScheme tls) h port?) = siteText (webScheme tls) h port? := by
  have trimmed : trimBlank (siteText (webScheme tls) h port?) = siteText (webScheme tls) h port? :=
    Url.trim_eq_self fun c hc => not_blank_of_graphic (Url.mem_siteText read hc)
  have marked : hasInfix "://".toList (siteText (webScheme tls) h port?) = true := hasInfix_append _ _
  rw [completeUrl]
  simp only [trimmed, marked, if_true]

theorem Sited.shownPort_le (s : Sited i h) : ∀ n ∈ i.shownPort, n ≤ 65535 := by
  intro n hn
  rw [shownPort] at hn
  split at hn
  · cases hn
  · cases hn
    exact s.port

theorem defaultPort?_webScheme (i : Issuer) : Url.defaultPort? (webScheme i.tls) = some i.defaultPort := by
  rw [webScheme, defaultPort]
  cases i.tls <;> rfl

theorem keptPort_getD (i : Issuer) : (Url.keptPort (webScheme i.tls) i.shownPort).getD i.defaultPort = i.port := by
  rw [Url.keptPort, defaultPort?_webScheme, shownPort]
  split <;> simp_all

theorem schemeTls?_webScheme (tls : Bool) : schemeTls? (webScheme tls) = some tls := by
  cases tls <;> rfl

theorem ofUrl_ofSite (s : Sited i h) :
    ofUrl (Url.ofSite (webScheme i.tls) h i.shownPort []) = .ok { i with skipVerify := false } := by
  have port := keptPort_getD i
  rw [defaultPort] at port
  simp [ofUrl, Url.ofSite, schemeTls?_webScheme, s.domain, port, Url.splitTail, Url.splitAtMark, Url.parsePath,
    UrlPath.render]

theorem Sited.parse_origin (s : Sited i h) (fixed : Idna.isPlain i.domain.toList = false →
    Host.parse i.domain.toList = .ok (.domain i.domain)) : parse i.origin = .ok { i with skipVerify := false } := by
  obtain ⟨cs, read⟩ := s.read
  have written : Host.parse h.written = .ok h := by
    refine Host.parse_written read ?_
    rintro name rfl coded
    rw [s.domain_eq] at coded ⊢
    exact fixed coded
  have site : Url.parseChars (siteText (webScheme i.tls) h i.shownPort ++ []) = _ :=
    Url.parseChars_site written s.shownPort_le (.inl rfl) (by simp)
  rw [List.append_nil] at site
  rw [parse, s.origin_eq, completeUrl_siteText read, site]
  exact ofUrl_ofSite s

/-- Whatever an issuer was read from and however it was changed since, its origin is read as the same issuer, with
certificates checked. A domain with coded labels must be one that the URL standard reads as itself; every address and
every plain name is. -/
theorem parse_origin_after (parsed : parse text = .ok i) (fixed : Idna.isPlain i.domain.toList = false →
    Host.parse i.domain.toList = .ok (.domain i.domain)) (changes : List Change) :
    parse (i.after changes).origin = .ok { i.after changes with skipVerify := false } := by
  obtain ⟨h, s⟩ := Sited.of_parse parsed
  refine (s.after changes).parse_origin ?_
  rw [after_domain]
  exact fixed

theorem parse_origin_after_mapped : parse "https://[::FFFF:c0a8:1]:8443/" = .ok ⟨"::ffff:192.168.0.1", 8443, true, false⟩ ∧
    parse (after ⟨"::ffff:192.168.0.1", 8443, true, false⟩ [.acceptAnyCertificate, .insecure 80]).origin =
      .ok ⟨"::ffff:192.168.0.1", 80, false, false⟩ := by
  have parsed : parse "https://[::FFFF:c0a8:1]:8443/" = .ok ⟨"::ffff:192.168.0.1", 8443, true, false⟩ :=
    eq_ok_of_toOption (by decide +kernel)
  refine ⟨parsed, parse_origin_after parsed ?_ [.acceptAnyCertificate, .insecure 80]⟩
  intro coded
  exact absurd coded (by decide)

end Issuer

end IdentityClient
