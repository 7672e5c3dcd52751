import IdentityClient.Proofs.Issuer.Reading
import IdentityClient.Provider.Discovery

/-!
# The document of an issuer is asked of the issuer

The address of the discovery document is written from the origin of an issuer, the network address from its domain and
port. Both lead to one instance (`Discovery.SameInstance`), whatever the issuer was read from and however it was changed
since (`Discovery.sameInstance_after`); only for a domain with a coded label that is too long to be read there is no such
address (`Discovery.address_of_long`).
-/

namespace IdentityClient

variable {i : Issuer} {h : Host} {text : String}

namespace Discovery

/-- `cs` is cut at its last `mark`. -/
def IsLastCut (mark : Char) (cs before after : List Char) : Prop := cs = before ++ mark :: after ∧ mark ∉ after

/-- The domain of an issuer as an authority shows it: in brackets if the host is an IPv6 address. -/
def shownDomain (i : Issuer) : Host → List Char
  | .ipv6 _ => '[' :: (i.domain.toList ++ [']'])
  | _ => i.domain.toList

/-- The URL that the document of an issuer is asked of, with its host, leads to the instance that calls go to. -/
structure SameInstance (i : Issuer) (u : Url) (h : Host) : Prop where
  read : Url.parse (address i.origin) = .ok u
  asked : ∀ r, request i = .ok r → r.url = u
  scheme : u.scheme = if i.tls then "https" else "http"
  host : u.host = some h
  domain : Issuer.domainOf? (some h) = some i.domain
  port : u.effectivePort? = some i.port
  path : u.path.render = path
  no_user : u.username = "" ∧ u.password = none
  no_more : u.query = none ∧ u.fragment = none
  called : IsLastCut ':' i.address.toList (shownDomain i h) (Nat.toDigits 10 i.port)

theorem toList_address (s : Issuer.Sited i h) :
    (address i.origin).toList = siteText (webScheme i.tls) h i.shownPort ++ path.toList := by
  obtain ⟨cs, read⟩ := s.read
  have untrimmed : (i.origin.toList.reverse.dropWhile (· == '/')).reverse = i.origin.toList := by
    rw [s.origin_eq, siteText, List.reverse_append, List.reverse_append]
    cases turned : (h.written ++ portText i.shownPort).reverse with
    | nil => simp [Host.written_ne_nil read] at turned
    | cons c rest =>
      have last : c ∈ h.written ++ portText i.shownPort := by
        rw [← List.mem_reverse, turned]
        exact List.mem_cons_self
      have other : (c == '/') = false := by
        have marks := (Url.mem_authority read last).2.2
        simp only [List.mem_cons, List.not_mem_nil, or_false, not_or] at marks
        simp [marks]
      simp only [List.cons_append, List.dropWhile_cons, other, Bool.false_eq_true, if_false]
      rw [← List.cons_append, ← List.cons_append, ← turned]
      simp
  rw [address, String.toList_append, String.toList_ofList, untrimmed, s.origin_eq]

theorem isTail_path : Url.IsTail path.toList := .inr ⟨'/', _, rfl, rfl⟩

theorem graphic_path : ∀ c ∈ path.toList, 0x20 < c.toNat := by decide +kernel

/-- The URL of the document of a site. -/
theorem splitTail_path : Url.splitTail .web path.toList = (path.toList, none, none) := by decide +kernel

theorem render_path : (Url.parsePath .web path.toList).render = path := by decide +kernel

theorem parse_address (s : Issuer.Sited i h) (fit : Idna.codesFit i.domain.toList = true) :
    Url.parse (address i.origin) = .ok (Url.ofSite (webScheme i.tls) h i.shownPort path.toList) := by
  rw [Url.parse, toList_address s]
  exact Url.parseChars_site (s.written fit) s.shownPort_le isTail_path graphic_path

theorem url_of_request {r : HttpRequest} {u : Url} (read : Url.parse (address i.origin) = .ok u)
    (no_user : u.username = "" ∧ u.password = none) (asked : request i = .ok r) : r.url = u := by
  have empty : (Utf8.decode (Percent.decode "".toList)).toOption = some "" := by decide +kernel
  have anonymous : u.credentials? = none := by
    simp only [Url.credentials?, no_user.1, no_user.2, empty]
    rfl
  rw [request, read] at asked
  simp only [HttpRequest.ofUrl, anonymous] at asked
  split at asked
  · cases asked
  · split at asked
    · cases asked
    · split at asked
      · cases asked
      · cases asked
        rfl

theorem shownDomain_eq (s : Issuer.Sited i h) : shownDomain i h = h.written := by
  cases h with
  | domain name => exact congrArg String.toList s.domain_eq.symm
  | ipv4 a =>
    have domain : a.render = i.domain := Option.some.inj s.domain
    exact congrArg String.toList domain.symm
  | ipv6 a =>
    have domain : a.render = i.domain := Option.some.inj s.domain
    rw [shownDomain, ← domain, Host.written]

theorem sameInstance_of_sited (s : Issuer.Sited i h) (fit : Idna.codesFit i.domain.toList = true) :
    SameInstance i (Url.ofSite (webScheme i.tls) h i.shownPort path.toList) h := by
  have read := parse_address s fit
  have port := Issuer.keptPort_getD i
  refine ⟨read, fun r asked => url_of_request read ⟨rfl, rfl⟩ asked, rfl, rfl, s.domain, ?_, ?_, ⟨rfl, rfl⟩, ?_, ?_, ?_⟩
  · rw [Url.effectivePort?]
    show (Url.keptPort (webScheme i.tls) i.shownPort).orElse (fun _ => Url.defaultPort? (webScheme i.tls)) = some i.port
    rw [Issuer.defaultPort?_webScheme]
    cases kept : Url.keptPort (webScheme i.tls) i.shownPort <;> simp_all
  · simp only [Url.ofSite, splitTail_path]
    exact render_path
  · simp only [Url.ofSite, splitTail_path, and_self]
  · simp [Issuer.address, s.authorityHost_eq, shownDomain_eq s]
  · exact Ipv4.not_mem_toDigits rfl

/-- Whatever an issuer was read from and however it was changed since, its document is asked of the instance that calls go
to. A domain with a coded label that is too long to be read is left out. -/
theorem sameInstance_after (parsed : Issuer.parse text = .ok i) (fit : Idna.codesFit i.domain.toList = true)
    (changes : List Issuer.Change) : ∃ u h, SameInstance (i.after changes) u h := by
  obtain ⟨h, s⟩ := Issuer.Sited.of_parse parsed
  exact ⟨_, h, sameInstance_of_sited (s.after changes) (by rwa [Issuer.after_domain])⟩

theorem sameInstance_after_ipv6 : Issuer.parse "[::1]" = .ok ⟨"::1", 443, true, false⟩ ∧
    ∃ u h, SameInstance (Issuer.after ⟨"::1", 443, true, false⟩ [.insecure 8080]) u h := by
  have parsed : Issuer.parse "[::1]" = .ok ⟨"::1", 443, true, false⟩ := eq_ok_of_toOption (by decide +kernel)
  exact ⟨parsed, sameInstance_after parsed (by decide) [.insecure 8080]⟩

/-! ### Domains that are not read again -/

theorem address_of_long (s : Issuer.Sited i h) (long : Idna.codesFit i.domain.toList = false) :
    Url.parse (address i.origin) = .error .internationalName := by
  obtain ⟨cs, read⟩ := s.read
  rw [Url.parse, toList_address s]
  exact Url.parseChars_refused read (Host.parse_written_of_long read (s.codesFit_eq.trans long)) isTail_path

theorem no_instance_of_spread : Issuer.parse (String.ofList ("https://".toList ++ Idna.spread)) = .ok Issuer.unread ∧
    ¬ ∃ u h, SameInstance Issuer.unread u h := by
  refine ⟨Issuer.parse_spread, ?_⟩
  rintro ⟨u, h, same⟩
  obtain ⟨h', s⟩ := Issuer.Sited.of_parse Issuer.parse_spread
  have read := same.read
  rw [address_of_long s Issuer.codesFit_unread] at read
  cases read

end Discovery

end IdentityClient
