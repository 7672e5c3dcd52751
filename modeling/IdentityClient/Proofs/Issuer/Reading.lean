import IdentityClient.Proofs.Issuer.Origin
import IdentityClient.Proofs.Net.Idna.Long

/-!
# Texts read as issuers

Blank space around a text goes, and then a text with a web scheme is read as its authority is (`Issuer.parse_of_authority`);
without a scheme it is read as with `https` (`Issuer.parse_of_missing`). Some texts are read as issuers whose origins are
not: names of ideographs, if there are enough of them in one label (`Issuer.parse_ideographs`).
-/

namespace IdentityClient

variable {c : Char} {cs before lead text rest hostText : List Char} {h : Host} {port? : Option Nat} {tls : Bool}

/-! ### Blank space -/

theorem not_blank_of_endsAuthority (ends : Url.endsAuthority true c = true) : isBlank c = false := by
  simp only [Url.endsAuthority, Bool.true_and, Bool.or_eq_true, beq_iff_eq] at ends
  rcases ends with ((rfl | rfl) | rfl) | rfl <;> decide

/-- What may follow an authority in a text: nothing but blanks, or what a character starts that ends authorities. -/
def Follows (rest : List Char) : Prop :=
  (∀ c ∈ rest, isBlank c = true) ∨ ∃ c cs, rest = c :: cs ∧ Url.endsAuthority true c = true

/-- What is left of a text behind an authority: blanks at its end go, and so does what no URL holds. -/
def tidied (rest : List Char) : List Char := Url.clean (trimBlank rest)

theorem trimBlank_append (leading : ∀ c ∈ before, isBlank c = true) (none : ∀ c ∈ text, isBlank c = false)
    (filled : text ≠ []) (follows : Follows rest) :
    trimBlank (before ++ (text ++ rest)) = text ++ trimBlank rest := by
  refine Url.trim_append leading none filled (follows.imp_right ?_)
  rintro ⟨c, cs, rfl, ends⟩
  exact ⟨c, cs, rfl, not_blank_of_endsAuthority ends⟩

theorem Follows.isTail (follows : Follows rest) : Url.IsTail (trimBlank rest) := by
  rcases follows with all | ⟨c, cs, rfl, ends⟩
  · left
    rw [trimBlank, List.dropWhile_eq_nil_iff.2 all]
    rfl
  · obtain ⟨cs', trimmed⟩ := Url.exists_trim_cons (not_blank_of_endsAuthority ends) cs
    exact .inr ⟨c, cs', trimmed, ends⟩

namespace Issuer

/-! ### Authorities -/

/-- What may stand in the authority of a text: nothing that ends it, and nothing that is trimmed or dropped. Letters, digits
and most marks are such. -/
def IsAuthorityChar (c : Char) : Prop := Url.endsAuthority true c = false ∧ 0x20 < c.toNat ∧ isBlank c = false

theorem IsAuthorityChar.of_isHostChar (h : IsHostChar c) : IsAuthorityChar c :=
  ⟨h.inner.endsAuthority_eq, h.1, not_blank_of_graphic ⟨h.1, h.2.1⟩⟩

/-- A text with a web scheme is read as its authority is, whatever the letters of the scheme. -/
theorem parse_of_authority (lower : lead.map Char.toLower = (webScheme tls).toList)
    (inner : ∀ c ∈ text, IsAuthorityChar c) (filled : text ≠ [])
    (leading : ∀ c ∈ before, isBlank c = true) (follows : Follows rest) :
    parse (String.ofList (before ++ (lead ++ ("://".toList ++ (text ++ rest))))) =
      match Url.parseAuthority (webScheme tls) true text (tidied rest) with
      | .error e => .error (.notUrl e)
      | .ok a => ofUrl (Url.ofAuthority (webScheme tls) a) := by
  have visible : ∀ c ∈ lead ++ ("://".toList ++ text), isBlank c = false := by
    intro c hc
    rcases List.mem_append.1 hc with hc | hc
    · have all : ∀ tls, ∀ c ∈ (webScheme tls).toList, isBlank c = false := by decide
      have mapped := all tls c.toLower (lower ▸ List.mem_map_of_mem hc)
      exact forall_toLower (P := fun c d => isBlank d = false → isBlank c = false) (fun _ h => h) (by decide) c mapped
    · rcases List.mem_append.1 hc with hc | hc
      · have marks : ∀ c ∈ "://".toList, isBlank c = false := by decide
        exact marks c hc
      · exact (inner c hc).2.2
  have trimmed := trimBlank_append leading visible (by simp) follows
  simp only [List.append_assoc] at trimmed
  have marked : hasInfix "://".toList (lead ++ ("://".toList ++ (text ++ trimBlank rest))) = true := hasInfix_append _ _
  have url := Url.parseChars_of_authority lower (fun c hc => ⟨(inner c hc).1, (inner c hc).2.1⟩) filled follows.isTail
  rw [parse, String.toList_ofList, completeUrl]
  simp only [trimmed, marked, if_true, url]
  rw [← tidied]
  cases Url.parseAuthority (webScheme tls) true text (tidied rest) <;> rfl

theorem isInfix_of_hasInfix {part : List Char} (h : hasInfix part cs = true) : part <:+: cs := by
  induction cs with
  | nil =>
    rw [hasInfix, List.isEmpty_iff] at h
    exact h ▸ List.infix_refl []
  | cons c cs ih =>
    rw [hasInfix, Bool.or_eq_true] at h
    rw [List.infix_cons_iff]
    exact h.imp List.isPrefixOf_iff_prefix.1 ih

/-- A text that has a slash at most at its end has no scheme, and is read as with `https`. -/
theorem parse_of_missing (inner : ∀ c ∈ text, c ≠ '/' ∧ isBlank c = false) (filled : text ≠ [])
    (leading : ∀ c ∈ before, isBlank c = true) (follows : Follows rest) (short : (trimBlank rest).length ≤ 1) :
    parse (String.ofList (before ++ (text ++ rest))) =
      parse (String.ofList (before ++ ("https".toList ++ ("://".toList ++ (text ++ rest))))) := by
  have trimmed := trimBlank_append leading (fun c hc => (inner c hc).2) filled follows
  have scheme : ∀ c ∈ "https".toList ++ "://".toList, isBlank c = false := by decide
  have visible : ∀ c ∈ "https".toList ++ ("://".toList ++ text), isBlank c = false := by
    rw [← List.append_assoc]
    exact List.forall_mem_append.2 ⟨scheme, fun c hc => (inner c hc).2⟩
  have trimmed' := trimBlank_append leading visible (by simp) follows
  have missing : hasInfix "://".toList (text ++ trimBlank rest) = false := by
    refine Bool.eq_false_iff.2 fun found => ?_
    have slashes := (isInfix_of_hasInfix found).sublist.count_le '/'
    have two : "://".toList.count '/' = 2 := by decide
    have none_inside : text.count '/' = 0 := List.count_eq_zero_of_not_mem fun hc => (inner '/' hc).1 rfl
    have one := List.count_le_length (l := trimBlank rest) (a := '/')
    rw [List.count_append, two, none_inside] at slashes
    omega
  have marked : hasInfix "://".toList ("https".toList ++ ("://".toList ++ (text ++ trimBlank rest))) = true :=
    hasInfix_append _ _
  have lead : "https://".toList = "https".toList ++ "://".toList := by decide
  simp only [List.append_assoc] at trimmed'
  simp only [parse, String.toList_ofList, completeUrl, trimmed, trimmed', missing, marked, if_true, lead,
    Bool.false_eq_true, if_false, List.append_assoc]

/-! ### Sites -/

variable {i : Issuer}

theorem Sited.codesFit_eq (s : Sited i h) : h.codesFit = Idna.codesFit i.domain.toList := by
  cases h with
  | domain name => rw [← s.domain_eq, Host.codesFit]
  | ipv4 a =>
    have domain : a.render = i.domain := Option.some.inj s.domain
    rw [← domain, Host.codesFit_ipv4, Host.codesFit]
  | ipv6 a =>
    have domain : a.render = i.domain := Option.some.inj s.domain
    rw [← domain, Host.codesFit_ipv6, Host.codesFit]

theorem Sited.written (s : Sited i h) (fit : Idna.codesFit i.domain.toList = true) : Host.parse h.written = .ok h := by
  obtain ⟨cs, read⟩ := s.read
  exact Host.parse_written_of_codesFit read (s.codesFit_eq.trans fit)

theorem skipVerify_of_parse {text : String} (parsed : parse text = .ok i) : i.skipVerify = false := by
  unfold parse at parsed
  split at parsed
  · cases parsed
  · exact (ofUrl_eq_ok parsed).2.2.2

/-- A port that says the same as none, or as the one of the scheme. -/
def ShowsPort (i : Issuer) (port? : Option Nat) : Prop := port? = i.shownPort ∨ port? = some i.port

theorem ShowsPort.getD_eq (shows : ShowsPort i port?) :
    (Url.keptPort (webScheme i.tls) port?).getD i.defaultPort = i.port := by
  rcases shows with rfl | rfl
  · exact keptPort_getD i
  · rw [Url.keptPort, defaultPort?_webScheme]
    split
    · rename_i same
      exact (Option.some.inj same).symm
    · rfl

theorem Sited.le_of_showsPort (s : Sited i h) (shows : ShowsPort i port?) : ∀ n ∈ port?, n ≤ 65535 := by
  rcases shows with rfl | rfl
  · exact s.shownPort_le
  · rintro n ⟨⟩
    exact s.port

/-- What follows the site of an issuer decides whether the issuer is read. -/
theorem Sited.ofUrl_ofSite_tail (s : Sited i h) (shows : ShowsPort i port?) {path : List Char}
    {query fragment : Option String} (tail : Url.splitTail .web rest = (path, query, fragment)) :
    ofUrl (Url.ofSite (webScheme i.tls) h port? rest) =
      if query.isSome then .error .query
      else if fragment.isSome then .error .fragment
      else if (Url.parsePath .web path).render ≠ "" ∧ (Url.parsePath .web path).render ≠ "/" then .error .path
      else .ok { i with skipVerify := false } := by
  have port := shows.getD_eq
  rw [defaultPort] at port
  simp only [ofUrl, Url.ofSite, tail, schemeTls?_webScheme, s.domain, port]
  simp

/-- The site of an issuer is read as such in any letters, with blanks before it. -/
theorem Sited.parse_spelled (s : Sited i h) (lower : lead.map Char.toLower = (webScheme i.tls).toList)
    (t : HostText hostText h) (visible : ∀ c ∈ hostText, isBlank c = false) (shows : ShowsPort i port?)
    (leading : ∀ c ∈ before, isBlank c = true) (follows : Follows rest) :
    parse (String.ofList (before ++ (lead ++ ("://".toList ++ ((hostText ++ portText port?) ++ rest))))) =
      ofUrl (Url.ofSite (webScheme i.tls) h port? (tidied rest)) := by
  rw [parse_of_authority lower (fun c hc => ⟨(t.authority hc).endsAuthority_eq, (t.authority hc).1, ?_⟩)
    (by simp [t.filled]) leading follows, Url.parseAuthority_text t (s.le_of_showsPort shows)]
  · rfl
  · rcases List.mem_append.1 hc with hc | hc
    · exact visible c hc
    · exact (IsAuthorityChar.of_isHostChar (mem_portText hc)).2.2

/-! ### Names whose ASCII form is no name -/

end Issuer

theorem Host.parse_ideographs (filled : cs ≠ []) (names : ∀ c ∈ cs, Idna.IsIdeograph c)
    (short : cs.length ≤ Idna.maxLabel) : Host.parse cs = .ok (.domain (String.ofList (Idna.closeLabel cs))) := by
  have coded := Idna.closeLabel_ideographs filled names
  have not_empty : (Idna.closeLabel cs).isEmpty = false := by rw [coded]; rfl
  have one : Ipv4.cutDots (Idna.closeLabel cs) = [Idna.closeLabel cs] := by
    rw [Ipv4.cutDots_eq, List.splitOn_eq_singleton (Idna.dot_not_mem_closeLabel (Idna.dot_not_mem_ideographs names))]
  have no_number : Ipv4.endsInNumber (Idna.closeLabel cs) = false := by
    have letter : 'x'.isDigit = false := by decide
    rw [Ipv4.endsInNumber, Ipv4.hostParts, one, coded]
    simp [Idna.codedMark, Ipv4.number?, letter]
  rw [Host.parse_of_allowed fun c hc => (names c hc).isForbidden_eq, Idna.toAscii_ideographs filled names short]
  simp only [Option.elim_some, Host.ofAsciiName, not_empty, no_number, Bool.false_eq_true, if_false]

/-- Ideographs are a host in an authority, the domain in its ASCII form. -/
theorem HostText.of_ideographs (filled : cs ≠ []) (names : ∀ c ∈ cs, Idna.IsIdeograph c)
    (short : cs.length ≤ Idna.maxLabel) : HostText cs (.domain (String.ofList (Idna.closeLabel cs))) := by
  have wide {c d : Char} (hc : c ∈ cs) (ascii : d.toNat < 0x80) : c ≠ d := by
    rintro rfl
    have := (names c hc).1
    omega
  refine ⟨Host.parse_ideographs filled names short, filled, fun c hc => ⟨?_, fun marks => ?_⟩, fun rest next => ?_⟩
  · have := (names c hc).1
    omega
  · have all : ∀ d ∈ ['/', '?', '#', '\\', '@'], d.toNat < 0x80 := by decide
    exact wide hc (all c marks) rfl
  · exact Url.splitHost_of_plain (fun c hc => ⟨wide hc (by decide), wide hc (by decide), wide hc (by decide)⟩) next

namespace Issuer

theorem parse_ideographs (filled : cs ≠ []) (names : ∀ c ∈ cs, Idna.IsIdeograph c) (short : cs.length ≤ Idna.maxLabel) :
    parse (String.ofList ("https://".toList ++ cs)) = .ok (ofDomain (String.ofList (Idna.closeLabel cs))) := by
  have t := HostText.of_ideographs filled names short
  have visible : ∀ c ∈ cs, isBlank c = false := by
    intro c hc
    have := (names c hc).1
    simp only [isBlank, Bool.or_eq_false_iff, Bool.and_eq_false_iff, decide_eq_false_iff_not, beq_eq_false_iff_ne]
    omega
  have filled' : String.ofList (Idna.closeLabel cs) ≠ "" := by
    rw [Idna.closeLabel_ideographs filled names]
    simp [Idna.codedMark]
  have s : Sited (ofDomain (String.ofList (Idna.closeLabel cs))) (.domain (String.ofList (Idna.closeLabel cs))) :=
    ⟨⟨cs, t.read⟩, by simp [domainOf?, filled', ofDomain], show 443 ≤ 65535 by decide⟩
  have https : "https://".toList ++ cs =
      [] ++ ((webScheme true).toList ++ ("://".toList ++ ((cs ++ portText none) ++ []))) := by
    simp [portText, webScheme]
  have plain : ShowsPort (ofDomain (String.ofList (Idna.closeLabel cs))) none := .inl rfl
  rw [https]
  refine (s.parse_spelled (map_toLower_webScheme true) t visible plain (by simp) (.inl (by simp))).trans ?_
  exact s.ofUrl_ofSite_tail plain rfl

/-- The issuer of a name that is coded too long to be read again. -/
def unread : Issuer := ofDomain (String.ofList (Idna.closeLabel Idna.spread))

theorem parse_spread : parse (String.ofList ("https://".toList ++ Idna.spread)) = .ok unread :=
  parse_ideographs (List.ne_nil_of_length_pos (by rw [Idna.length_spread]; decide)) Idna.isIdeograph_of_mem_spread
    (by rw [Idna.length_spread]; decide)

theorem codesFit_unread : Idna.codesFit unread.domain.toList = false := by
  have many : 682 ≤ Idna.spread.length := by rw [Idna.length_spread]; decide
  have long := Idna.codesFit_ideographs Idna.isIdeograph_of_mem_spread Idna.farApart_spread many
  rwa [← String.toList_ofList (l := Idna.closeLabel Idna.spread)] at long

end Issuer

end IdentityClient
