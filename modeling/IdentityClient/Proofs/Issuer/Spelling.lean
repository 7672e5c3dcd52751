import IdentityClient.Proofs.Issuer.Reading

/-!
# What the origin of an issuer may be written as

The origin of an issuer has many spellings, and each of them is read as the issuer (`Issuer.Spelling.parse_text`). What goes
on behind the origin, or puts a user before its host, is refused, with an error that names what is too much
(`Issuer.ReadAround`). An issuer whose domain has a coded label that is too long to be read is no such issuer: not even its
origin is read.
-/

namespace IdentityClient

variable {c : Char} {cs info rest : List Char} {i : Issuer} {h : Host}

/-! ### Tails -/

namespace Url

theorem splitAtMark_of_not_mem {mark : Char} (h : mark ∉ cs) : splitAtMark mark cs = (cs, none) := by
  have none_here : cs.dropWhile (· != mark) = [] := by
    refine List.dropWhile_eq_nil_iff.2 fun c hc => ?_
    rw [bne_iff_ne]
    rintro rfl
    exact h hc
  simp only [splitAtMark, none_here]

theorem splitAtMark_cons {mark : Char} (other : c ≠ mark) (cs : List Char) :
    splitAtMark mark (c :: cs) = (c :: (splitAtMark mark cs).1, (splitAtMark mark cs).2) := by
  have stays : (c != mark) = true := by simpa using other
  simp only [splitAtMark, List.dropWhile_cons, stays, if_true, List.takeWhile_cons]
  cases cs.dropWhile (· != mark) <;> rfl

theorem splitAtMark_self (mark : Char) (cs : List Char) : splitAtMark mark (mark :: cs) = ([], some cs) := by
  simp [splitAtMark]

/-- A question mark starts a query, whatever follows it. -/
theorem splitTail_query (cs : List Char) : ∃ query fragment, splitTail .web ('?' :: cs) = ([], some query, fragment) := by
  simp only [splitTail, splitAtMark_cons (show '?' ≠ '#' by decide), splitAtMark_self, Option.map_some]
  exact ⟨_, _, rfl⟩

theorem splitTail_fragment (cs : List Char) : ∃ fragment, splitTail .web ('#' :: cs) = ([], none, some fragment) := by
  simp only [splitTail, splitAtMark_self, splitAtMark_of_not_mem (List.not_mem_nil), Option.map_some, Option.map_none]
  exact ⟨_, rfl⟩

theorem splitTail_path (query : '?' ∉ cs) (fragment : '#' ∉ cs) : splitTail .web cs = (cs, none, none) := by
  simp only [splitTail, splitAtMark_of_not_mem fragment, splitAtMark_of_not_mem query, Option.map_none]

theorem mem_of_mem_trim {p : Char → Bool} (h : c ∈ ((cs.dropWhile p).reverse.dropWhile p).reverse) : c ∈ cs := by
  rw [List.mem_reverse] at h
  have left := (List.dropWhile_suffix _).subset h
  rw [List.mem_reverse] at left
  exact (List.dropWhile_suffix _).subset left

/-! ### Paths -/

theorem resolve_ne_nil {file : Bool} {done parts : List String} (filled : parts ≠ [] ∨ done ≠ []) :
    resolve file done parts ≠ [] := by
  induction parts generalizing done with
  | nil => simpa [resolve] using filled
  | cons part parts ih =>
    have later (done : List String) (more : ¬ parts.isEmpty = true) : resolve file done parts ≠ [] :=
      ih (.inl (by simpa using more))
    simp only [resolve]
    split
    · split
      · simp
      · exact later _ ‹_›
    · split
      · split
        · simp
        · exact later _ ‹_›
      · exact ih (.inr (List.cons_ne_nil _ _))

theorem cutSlashes_ne_nil (special : Bool) (cs : List Char) : cutSlashes special cs ≠ [] := by
  cases cs with
  | nil => exact List.cons_ne_nil _ _
  | cons c cs =>
    rw [cutSlashes]
    split
    · exact List.cons_ne_nil _ _
    · split <;> exact List.cons_ne_nil _ _

/-- The path of a web URL starts with a slash. -/
theorem render_parsePath_ne_empty (cs : List Char) : (parsePath .web cs).render ≠ "" := by
  have some_segment {parts : List String} (filled : parts ≠ []) : (UrlPath.segments parts).render ≠ "" := by
    obtain ⟨part, parts, rfl⟩ := List.exists_cons_of_ne_nil filled
    simp [UrlPath.render]
  have segments (cs : List Char) : pathSegments .web cs ≠ [] :=
    resolve_ne_nil (.inl (mt List.map_eq_nil_iff.1 (cutSlashes_ne_nil true cs)))
  rw [parsePath.eq_def]
  split
  · exact some_segment (List.cons_ne_nil _ _)
  · split
    · exact some_segment (segments _)
    · exact some_segment (segments _)

end Url

/-! ### What follows an origin -/

theorem exists_tidied_cons (ends : Url.endsAuthority true c = true) (cs : List Char) :
    ∃ cs', tidied (c :: cs) = c :: cs' := by
  obtain ⟨cs', trimmed⟩ := Url.exists_trim_cons (not_blank_of_endsAuthority ends) cs
  obtain ⟨cs'', cleaned⟩ := Url.exists_clean_cons (Url.graphic_of_endsAuthority ends) cs'
  exact ⟨cs'', (congrArg Url.clean trimmed).trans cleaned⟩

theorem mem_of_mem_tidied (h : c ∈ tidied cs) : c ∈ cs :=
  Url.mem_of_mem_trim (Url.mem_of_mem_trim (List.mem_filter.1 h).1)

theorem trimBlank_blank (blank : ∀ c ∈ rest, isBlank c = true) : trimBlank rest = [] := by
  rw [trimBlank, List.dropWhile_eq_nil_iff.2 blank]
  rfl

theorem tidied_blank (blank : ∀ c ∈ rest, isBlank c = true) : tidied rest = [] := by
  rw [tidied, trimBlank_blank blank]
  rfl

/-- Behind a slash, too, blanks are nothing. -/
theorem tidied_slash (blank : ∀ c ∈ rest, isBlank c = true) :
    trimBlank ('/' :: rest) = ['/'] ∧ tidied ('/' :: rest) = ['/'] := by
  have slash : ∀ c ∈ ['/'], isBlank c = false := by decide
  have trimmed := trimBlank_append (List.forall_mem_nil _) slash (by simp) (.inl blank)
  rw [trimBlank_blank blank] at trimmed
  refine ⟨trimmed, ?_⟩
  rw [tidied, show trimBlank ('/' :: rest) = ['/'] from trimmed]
  decide

namespace Issuer

/-! ### Spellings -/

/-- A way to write the origin of an issuer: a slash may follow it, blanks may surround it, the port of its scheme may be
written out, letters may be in either case, and `https` may be left out. -/
structure Spelling (i : Issuer) where
  before : List Char
  lead : List Char
  host : List Char
  port? : Option Nat
  slash : List Char
  after : List Char
  blank_before : ∀ c ∈ before, isBlank c = true
  scheme : lead.map Char.toLower = (i.scheme ++ "://").toList ∨ (i.tls = true ∧ lead = [])
  letters : host.map Char.toLower = i.authorityHost.toList.map Char.toLower
  shows : ShowsPort i port?
  root : slash = [] ∨ slash = ['/']
  blank_after : ∀ c ∈ after, isBlank c = true

/-- The text of a spelling. -/
def Spelling.text (w : Spelling i) : List Char :=
  w.before ++ (w.lead ++ ((w.host ++ portText w.port?) ++ (w.slash ++ w.after)))

theorem toList_scheme (i : Issuer) : (i.scheme ++ "://").toList = (webScheme i.tls).toList ++ "://".toList := by
  rw [String.toList_append]
  rfl

theorem isHostChar_of_same_letters {cs ds : List Char} (chars : ∀ c ∈ ds, IsHostChar c)
    (same : cs.map Char.toLower = ds.map Char.toLower) : ∀ c ∈ cs, IsHostChar c := by
  intro c hc
  obtain ⟨d, hd, lower⟩ := exists_same_letter same hc
  have small : IsHostChar d.toLower :=
    forall_toLower (P := fun c d => IsHostChar c → IsHostChar d) (fun _ h => h) (by decide) d (chars d hd)
  exact .of_toLower (lower ▸ small)

/-- Every spelling of the origin is read as the issuer. -/
theorem Spelling.parse_text (w : Spelling i) (s : Sited i h) (read : Host.parse h.written = .ok h) :
    parse (String.ofList w.text) = .ok { i with skipVerify := false } := by
  have same : w.host.map Char.toLower = h.written.map Char.toLower := by rw [w.letters, s.authorityHost_eq]
  have t := HostText.of_same_letters read same
  have chars := isHostChar_of_same_letters (fun c hc => Host.mem_written read hc) same
  have visible : ∀ c ∈ w.host, isBlank c = false := fun c hc => (IsAuthorityChar.of_isHostChar (chars c hc)).2.2
  -- Whether there is a slash or not, nothing is left behind the authority but the root.
  obtain ⟨follows, short, named⟩ : Follows (w.slash ++ w.after) ∧ (trimBlank (w.slash ++ w.after)).length ≤ 1 ∧
      ofUrl (Url.ofSite (webScheme i.tls) h w.port? (tidied (w.slash ++ w.after))) =
        .ok { i with skipVerify := false } := by
    rcases w.root with none | slash
    · rw [none, List.nil_append, tidied_blank w.blank_after, trimBlank_blank w.blank_after]
      exact ⟨.inl w.blank_after, Nat.zero_le 1, s.ofUrl_ofSite_tail w.shows rfl⟩
    · obtain ⟨trimmed, tidy⟩ := tidied_slash w.blank_after
      rw [slash, List.singleton_append, tidy, trimmed]
      refine ⟨.inr ⟨'/', w.after, rfl, rfl⟩, Nat.le_refl 1, ?_⟩
      have path : (Url.parsePath .web ['/']).render = "/" := by decide +kernel
      rw [s.ofUrl_ofSite_tail w.shows (Url.splitTail_path (by decide) (by decide)), path]
      rfl
  have lower_read {lead : List Char} (lower : lead.map Char.toLower = (webScheme i.tls).toList) :=
    (s.parse_spelled lower t visible w.shows w.blank_before follows).trans named
  rcases w.scheme with written | ⟨tls, none⟩
  · rw [toList_scheme] at written
    obtain ⟨lead, marks, lead_eq, lower, rest⟩ := List.map_eq_append_iff.1 written
    obtain rfl := eq_of_map_toLower (by decide) rest
    rw [Spelling.text, lead_eq, List.append_assoc]
    exact lower_read lower
  · have inner : ∀ c ∈ w.host ++ portText w.port?, c ≠ '/' ∧ isBlank c = false := by
      intro c hc
      have char : IsHostChar c := (List.mem_append.1 hc).elim (chars c) mem_portText
      exact ⟨fun slash => char.2.2 (by simp [slash]), (IsAuthorityChar.of_isHostChar char).2.2⟩
    have https := lower_read (map_toLower_webScheme i.tls)
    rw [show webScheme i.tls = "https" by rw [tls]; rfl] at https
    rw [Spelling.text, none, List.nil_append, parse_of_missing inner (by simp [t.filled]) w.blank_before follows short]
    exact https

/-! ### Kinds of spellings -/

theorem toList_origin (i : Issuer) :
    i.origin.toList = (i.scheme ++ "://").toList ++ (i.authorityHost.toList ++ portText i.shownPort) := by
  rw [origin, shownPort]
  split <;> simp [portText]

theorem map_toLower_scheme (i : Issuer) : (i.scheme ++ "://").toList.map Char.toLower = (i.scheme ++ "://").toList := by
  have marks : "://".toList.map Char.toLower = "://".toList := by decide
  rw [toList_scheme, List.map_append, map_toLower_webScheme, marks]

/-- The origin itself. -/
def Spelling.plain (i : Issuer) : Spelling i where
  before := []
  lead := (i.scheme ++ "://").toList
  host := i.authorityHost.toList
  port? := i.shownPort
  slash := []
  after := []
  blank_before := by simp
  scheme := .inl (map_toLower_scheme i)
  letters := rfl
  shows := .inl rfl
  root := .inl rfl
  blank_after := by simp

def Spelling.blanks (i : Issuer) {before after : List Char} (hb : ∀ c ∈ before, isBlank c = true)
    (ha : ∀ c ∈ after, isBlank c = true) : Spelling i :=
  { plain i with before, after, blank_before := hb, blank_after := ha }

def Spelling.rooted (i : Issuer) : Spelling i := { plain i with slash := ['/'], root := .inr rfl }

def Spelling.portShown (i : Issuer) : Spelling i := { plain i with port? := some i.port, shows := .inr rfl }

def Spelling.noScheme (tls : i.tls = true) : Spelling i := { plain i with lead := [], scheme := .inr ⟨tls, rfl⟩ }

theorem Spelling.text_blanks {before after : List Char} (hb : ∀ c ∈ before, isBlank c = true)
    (ha : ∀ c ∈ after, isBlank c = true) : (blanks i hb ha).text = before ++ (i.origin.toList ++ after) := by
  simp [text, blanks, plain, toList_origin]

theorem Spelling.text_rooted (i : Issuer) : (rooted i).text = i.origin.toList ++ ['/'] := by
  simp [text, rooted, plain, toList_origin]

theorem Spelling.text_portShown (i : Issuer) : (portShown i).text = (i.scheme ++ "://" ++ i.address).toList := by
  simp [text, portShown, plain, address, portText]

theorem Spelling.text_noScheme (tls : i.tls = true) : "https://".toList ++ (noScheme tls).text = i.origin.toList := by
  simp [text, noScheme, plain, toList_origin, Issuer.scheme, tls]

theorem not_isAlpha_of_portText {port? : Option Nat} (hc : c ∈ portText port?) : c.isAlpha = false := by
  cases port? with
  | none => cases hc
  | some n =>
    rcases List.mem_cons.1 hc with rfl | hc
    · decide
    · obtain ⟨d, hd, rfl⟩ := Ipv4.mem_toDigits (by decide) hc
      have all : ∀ d < 10, (Nat.digitChar d).isAlpha = false := by decide
      exact all d hd

/-- Letters in other case are another spelling. -/
theorem Spelling.exists_of_letters {text : List Char} (same : text.map Char.toLower = i.origin.toList.map Char.toLower) :
    ∃ w : Spelling i, w.text = text := by
  rw [toList_origin, List.map_append, List.map_append, map_toLower_scheme] at same
  obtain ⟨lead, rest, rfl, lead_eq, same⟩ := List.map_eq_append_iff.1 same
  obtain ⟨host, port, rfl, letters, same⟩ := List.map_eq_append_iff.1 same
  rw [map_toLower_eq_self fun c hc => toLower_eq_self (not_isAlpha_of_portText hc)] at same
  obtain rfl := eq_of_map_toLower (fun c => not_isAlpha_of_portText) same
  refine ⟨{ plain i with lead, host, scheme := .inl lead_eq, letters }, ?_⟩
  simp [Spelling.text, plain]

/-! ### Texts that go on behind an origin -/

theorem Sited.parse_origin_append (s : Sited i h) (read : Host.parse h.written = .ok h) (follows : Follows rest) :
    parse (String.ofList (i.origin.toList ++ rest)) = ofUrl (Url.ofSite (webScheme i.tls) h i.shownPort (tidied rest)) := by
  have visible : ∀ c ∈ h.written, isBlank c = false :=
    fun c hc => (IsAuthorityChar.of_isHostChar (Host.mem_written read hc)).2.2
  have spelled := s.parse_spelled (map_toLower_webScheme i.tls) (.written read) visible (.inl rfl) (List.forall_mem_nil _)
    follows
  rw [s.origin_eq, siteText]
  simpa only [List.append_assoc, List.nil_append] using spelled

theorem Sited.parse_query (s : Sited i h) (read : Host.parse h.written = .ok h) (more : List Char) :
    parse (String.ofList (i.origin.toList ++ '?' :: more)) = .error .query := by
  obtain ⟨cs, tidy⟩ := exists_tidied_cons (c := '?') rfl more
  obtain ⟨query, fragment, tail⟩ := Url.splitTail_query cs
  rw [s.parse_origin_append read (.inr ⟨'?', more, rfl, rfl⟩), tidy, s.ofUrl_ofSite_tail (.inl rfl) tail]
  rfl

theorem Sited.parse_fragment (s : Sited i h) (read : Host.parse h.written = .ok h) (more : List Char) :
    parse (String.ofList (i.origin.toList ++ '#' :: more)) = .error .fragment := by
  obtain ⟨cs, tidy⟩ := exists_tidied_cons (c := '#') rfl more
  obtain ⟨fragment, tail⟩ := Url.splitTail_fragment cs
  rw [s.parse_origin_append read (.inr ⟨'#', more, rfl, rfl⟩), tidy, s.ofUrl_ofSite_tail (.inl rfl) tail]
  rfl

/-- The path that a text behind a host stands for. -/
def pathOf (rest : List Char) : String := (Url.parsePath .web (tidied rest)).render

theorem Sited.parse_path (s : Sited i h) (read : Host.parse h.written = .ok h) {more : List Char} (query : '?' ∉ more)
    (fragment : '#' ∉ more) : parse (String.ofList (i.origin.toList ++ '/' :: more)) =
      if pathOf ('/' :: more) = "/" then .ok { i with skipVerify := false } else .error .path := by
  have tail : Url.splitTail .web (tidied ('/' :: more)) = (tidied ('/' :: more), none, none) := by
    refine Url.splitTail_path (fun hc => ?_) (fun hc => ?_)
    · exact query ((List.mem_cons.1 (mem_of_mem_tidied hc)).resolve_left (by decide))
    · exact fragment ((List.mem_cons.1 (mem_of_mem_tidied hc)).resolve_left (by decide))
  rw [s.parse_origin_append read (.inr ⟨'/', more, rfl, rfl⟩), s.ofUrl_ofSite_tail (.inl rfl) tail]
  have rooted := Url.render_parsePath_ne_empty (tidied ('/' :: more))
  by_cases root : pathOf ('/' :: more) = "/"
  · have root' : (Url.parsePath .web (tidied ('/' :: more))).render = "/" := root
    simp [root, root']
  · have root' : (Url.parsePath .web (tidied ('/' :: more))).render ≠ "/" := root
    simp [root, root', rooted]

/-! ### Users -/

theorem encodeChar_ne_nil (mustEncode : Char → Bool) (c : Char) : Percent.encodeChar mustEncode c ≠ [] := by
  rw [Percent.encodeChar]
  split
  · obtain ⟨b, bytes, encoded⟩ := List.exists_cons_of_ne_nil (String.utf8EncodeChar_ne_nil (c := c))
    simp [encoded, Percent.encodeByte]
  · exact List.cons_ne_nil _ _

/-- A user info that does not start with a colon names a user. -/
theorem username_ne_empty (first : c ≠ ':') : (Url.splitUserInfo (c :: cs)).1 ≠ "" := by
  have named : (c :: cs).takeWhile (· != ':') = c :: cs.takeWhile (· != ':') :=
    List.takeWhile_cons_of_pos (by simpa using first)
  have username : (Url.splitUserInfo (c :: cs)).1 =
      String.ofList (Percent.encode Percent.inUserInfo (c :: cs.takeWhile (· != ':'))) := by
    rw [← named, Url.splitUserInfo]
    dsimp only
    split <;> rfl
  rw [username, Percent.encode, List.flatMap_cons]
  simp [encodeChar_ne_nil]

theorem Sited.parse_user (s : Sited i h) (read : Host.parse h.written = .ok h) (first : c ≠ ':')
    (chars : ∀ d ∈ c :: cs, IsAuthorityChar d) : parse (String.ofList ((webScheme i.tls).toList ++ ("://".toList ++
      ((c :: cs) ++ '@' :: (h.written ++ portText i.shownPort))))) = .error .userInfo := by
  have t := HostText.written read
  have plain : ∀ d ∈ (c :: cs) ++ '@' :: (h.written ++ portText i.shownPort), IsAuthorityChar d := by
    intro d hd
    rcases List.mem_append.1 hd with hd | hd
    · exact chars d hd
    · rcases List.mem_cons.1 hd with rfl | hd
      · exact ⟨by decide, by decide, by decide⟩
      · exact .of_isHostChar (Url.mem_authority read hd)
  have whole := parse_of_authority (map_toLower_webScheme i.tls) plain (by simp) (List.forall_mem_nil _)
    (.inl (List.forall_mem_nil _))
  rw [Url.parseAuthority_user t s.shownPort_le] at whole
  simp only [List.nil_append, List.append_nil] at whole
  rw [whole]
  exact if_pos (.inl (username_ne_empty first))

/-! ### All of them -/

/-- What the texts around the origin of an issuer are read as: the origin in any spelling as the issuer, and what goes beyond
it as the error that says so. -/
structure ReadAround (i : Issuer) : Prop where
  spelled : ∀ w : Spelling i, parse (String.ofList w.text) = .ok i
  blanks : ∀ before after : String, (∀ c ∈ before.toList, isBlank c = true) → (∀ c ∈ after.toList, isBlank c = true) →
    parse (before ++ i.origin ++ after) = .ok i
  slash : parse (i.origin ++ "/") = .ok i
  port : parse (i.scheme ++ "://" ++ i.address) = .ok i
  letters : ∀ text : String, text.toList.map Char.toLower = i.origin.toList.map Char.toLower → parse text = .ok i
  no_scheme : i.tls = true → ∀ site, i.origin = "https://" ++ site → parse site = .ok i
  query : ∀ more, parse (i.origin ++ "?" ++ more) = .error .query
  fragment : ∀ more, parse (i.origin ++ "#" ++ more) = .error .fragment
  path : ∀ more : String, '?' ∉ more.toList → '#' ∉ more.toList →
    parse (i.origin ++ "/" ++ more) = if pathOf ('/' :: more.toList) = "/" then .ok i else .error .path
  user : ∀ site, i.origin = i.scheme ++ "://" ++ site → ∀ user : String, user ≠ "" →
    (∀ c ∈ user.toList, IsAuthorityChar c ∧ c ≠ ':') → parse (i.scheme ++ "://" ++ user ++ "@" ++ site) = .error .userInfo
  password : ∀ site, i.origin = i.scheme ++ "://" ++ site → ∀ user password : String, user ≠ "" →
    (∀ c ∈ user.toList, IsAuthorityChar c ∧ c ≠ ':') → (∀ c ∈ password.toList, IsAuthorityChar c) →
      parse (i.scheme ++ "://" ++ user ++ ":" ++ password ++ "@" ++ site) = .error .userInfo

theorem parse_of_toList {text : String} (is : text.toList = cs) : parse text = parse (String.ofList cs) := by
  rw [← is, String.ofList_toList]

/-- Where the origin goes on behind its scheme. -/
theorem Sited.toList_site {site : String} (s : Sited i h) (is : i.origin = i.scheme ++ "://" ++ site) :
    site.toList = h.written ++ portText i.shownPort := by
  have texts := s.origin_eq
  rw [is, String.toList_append, toList_scheme, siteText, List.append_assoc] at texts
  exact List.append_cancel_left (List.append_cancel_left texts)

theorem Sited.readAround (s : Sited i h) (read : Host.parse h.written = .ok h) (checked : i.skipVerify = false) :
    ReadAround i := by
  have same : { i with skipVerify := false } = i := by rw [← checked]
  have spelled (w : Spelling i) : parse (String.ofList w.text) = .ok i := by rw [w.parse_text s read, same]
  have spelled_as {text : String} (w : Spelling i) (is : w.text = text.toList) : parse text = .ok i :=
    (parse_of_toList is.symm).trans (spelled w)
  have refused {site : String} {info : List Char} (is : i.origin = i.scheme ++ "://" ++ site) {user : String}
      (named : user ≠ "") (chars : ∀ c ∈ user.toList, IsAuthorityChar c ∧ c ≠ ':') (more : ∀ c ∈ info, IsAuthorityChar c) :
      parse (String.ofList ((i.scheme ++ "://").toList ++ (user.toList ++ (info ++ '@' :: site.toList)))) =
        .error .userInfo := by
    obtain ⟨c, cs, text⟩ : ∃ c cs, user.toList = c :: cs := List.exists_cons_of_ne_nil (by simpa using named)
    rw [text] at chars
    obtain ⟨⟨-, first⟩, -⟩ := List.forall_mem_cons.1 chars
    have all : ∀ d ∈ c :: (cs ++ info), IsAuthorityChar d := List.forall_mem_append.2 ⟨fun c hc => (chars c hc).1, more⟩
    have whole := s.parse_user read first all
    rw [toList_scheme, text, s.toList_site is]
    simpa only [List.append_assoc, List.cons_append] using whole
  exact {
    spelled
    blanks := fun before after hb ha => spelled_as (.blanks i hb ha) (by simp [Spelling.text_blanks])
    slash := spelled_as (.rooted i) (by simp [Spelling.text_rooted])
    port := spelled_as (.portShown i) (Spelling.text_portShown i)
    letters := fun text letters => by
      obtain ⟨w, is⟩ := Spelling.exists_of_letters letters
      exact spelled_as w is
    no_scheme := fun tls site is => by
      have texts := Spelling.text_noScheme tls
      rw [is, String.toList_append] at texts
      exact spelled_as (.noScheme tls) (List.append_cancel_left texts)
    query := fun more => (parse_of_toList (by simp)).trans (s.parse_query read more.toList)
    fragment := fun more => (parse_of_toList (by simp)).trans (s.parse_fragment read more.toList)
    path := fun more query fragment => by
      have text : (i.origin ++ "/" ++ more).toList = i.origin.toList ++ '/' :: more.toList := by simp
      rw [parse_of_toList text, s.parse_path read query fragment, same]
    user := fun site is user named chars => by
      refine (parse_of_toList ?_).trans (refused is named chars (List.forall_mem_nil _))
      simp
    password := fun site is user password named chars more => by
      have info : ∀ c ∈ ':' :: password.toList, IsAuthorityChar c :=
        List.forall_mem_cons.2 ⟨⟨by decide, by decide, by decide⟩, more⟩
      refine (parse_of_toList ?_).trans (refused is named chars info)
      simp }

/-- Around the origin of an issuer that was read, texts are read as they should be. A domain with a coded label that is too
long to be read is left out. -/
theorem readAround_of_parse {text : String} (parsed : parse text = .ok i) (fit : Idna.codesFit i.domain.toList = true) :
    ReadAround i := by
  obtain ⟨h, s⟩ := Sited.of_parse parsed
  exact s.readAround (s.written fit) (skipVerify_of_parse parsed)

theorem readAround_of_parse_ipv6 : parse "http://[::1]:8080" = .ok ⟨"::1", 8080, false, false⟩ ∧
    ReadAround ⟨"::1", 8080, false, false⟩ := by
  have parsed : parse "http://[::1]:8080" = .ok ⟨"::1", 8080, false, false⟩ := eq_ok_of_toOption (by decide +kernel)
  exact ⟨parsed, readAround_of_parse parsed (by decide)⟩

/-! ### Domains that are not read again -/

/-- What starts with the origin of an issuer is no URL if its domain is coded too long. -/
theorem Sited.parse_origin_of_long (s : Sited i h) (long : Idna.codesFit i.domain.toList = false) (follows : Follows rest) :
    parse (String.ofList (i.origin.toList ++ rest)) = .error (.notUrl .internationalName) := by
  obtain ⟨cs, read⟩ := s.read
  have plain : ∀ c ∈ h.written ++ portText i.shownPort, IsAuthorityChar c :=
    fun c hc => .of_isHostChar (Url.mem_authority read hc)
  have whole := parse_of_authority (map_toLower_webScheme i.tls) plain (by simp [Host.written_ne_nil read])
    (List.forall_mem_nil _) follows
  rw [Url.parseAuthority_refused read (Host.parse_written_of_long read (s.codesFit_eq.trans long))] at whole
  rw [s.origin_eq, siteText]
  simpa only [List.append_assoc, List.nil_append] using whole

theorem not_readAround_unread : parse (String.ofList ("https://".toList ++ Idna.spread)) = .ok unread ∧
    ¬ ReadAround unread := by
  refine ⟨parse_spread, fun around => ?_⟩
  obtain ⟨h, s⟩ := Sited.of_parse parse_spread
  have read := around.slash
  have text : (unread.origin ++ "/").toList = unread.origin.toList ++ ['/'] := by simp
  rw [parse_of_toList text, s.parse_origin_of_long codesFit_unread (.inr ⟨'/', [], rfl, rfl⟩)] at read
  cases read

end Issuer

end IdentityClient
