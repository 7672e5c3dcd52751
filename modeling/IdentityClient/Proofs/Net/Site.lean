import IdentityClient.Net.Url.Parser
import IdentityClient.Proofs.Net.Host
import IdentityClient.Proofs.Text.Letters

/-!
# Written sites read back

A site is a web scheme, a host and possibly a port: `scheme://host[:port]`. What follows it in a URL starts with a
character that ends the authority, and so takes no part in how the site is read (`Url.parseRemote_of_authority`). Letters
of scheme and host may be of either case (`HostText.of_same_letters`, `Url.parseChars_spelled`). The other way round, the
host of every web URL was read as one, and its port is a port number (`Url.host_of_parseChars`).
-/

namespace IdentityClient

variable {c : Char} {cs hostText info lead text rest : List Char} {h : Host} {scheme : String} {port? : Option Nat}
  {n : Nat} {tls : Bool}

/-! ### Characters of a site -/

/-- Graphic ASCII that ends neither an authority nor a user info. -/
def IsHostChar (c : Char) : Prop := 0x20 < c.toNat ∧ c.toNat < 0x7f ∧ c ∉ ['/', '?', '#', '\\', '@']

instance : DecidablePred IsHostChar := fun c => inferInstanceAs (Decidable (0x20 < c.toNat ∧ _ ∧ _))

/-- No blank, and neither the end of an authority nor that of a user info. -/
def IsInnerChar (c : Char) : Prop := 0x20 < c.toNat ∧ c ∉ ['/', '?', '#', '\\', '@']

theorem IsHostChar.inner (hc : IsHostChar c) : IsInnerChar c := ⟨hc.1, hc.2.2⟩

theorem IsInnerChar.endsAuthority_eq (hc : IsInnerChar c) : Url.endsAuthority true c = false := by
  have marks := hc.2
  simp only [List.mem_cons, List.not_mem_nil, or_false, not_or] at marks
  simp [Url.endsAuthority, marks]

theorem no_user_of_inner (inner : ∀ c ∈ cs, IsInnerChar c) : '@' ∉ cs ∧ cs ≠ ['@'] := by
  have no_user : '@' ∉ cs := fun at_ => (inner '@' at_).2 (by decide)
  exact ⟨no_user, fun alone => no_user (by simp [alone])⟩

theorem Idna.IsNameChar.isHostChar (hc : IsNameChar c) : IsHostChar c := by
  obtain ⟨ascii, allowed⟩ := hc
  have all : ∀ n < 0x80, isForbidden (Char.ofNat n) = false → IsHostChar (Char.ofNat n) := by decide
  have here := all c.toNat ascii
  rw [Char.ofNat_toNat] at here
  exact here allowed

theorem Idna.IsNameChar.ne (hc : IsNameChar c) : c ≠ ':' ∧ c ≠ '[' ∧ c ≠ ']' := by
  refine ⟨?_, ?_, ?_⟩
  all_goals rintro rfl
  all_goals exact absurd hc.2 (by decide)

namespace Host

theorem isNameChar_of_ipv4 {a : Ipv4} (hc : c ∈ a.render.toList) : Idna.IsNameChar c :=
  have plain := plain_of_digit (Ipv4.mem_render hc)
  ⟨plain.1.1, plain.2.1⟩

theorem isHostChar_of_ipv6 {a : Ipv6} : ∀ c ∈ a.render.toList, IsHostChar c ∧ c ≠ '[' ∧ c ≠ ']' :=
  Ipv6.forall_mem_render (by decide) (by decide) (by decide)

/-- Only an IPv6 address is written with colons and brackets. -/
theorem bracketed_or_plain (read : parse cs = .ok h) :
    (∃ a, h = .ipv6 a) ∨ ∀ c ∈ h.written, Idna.IsNameChar c := by
  cases h with
  | domain name => exact .inr (domain_of_parse read).2.2
  | ipv4 a => exact .inr fun c hc => isNameChar_of_ipv4 hc
  | ipv6 a => exact .inl ⟨a, rfl⟩

theorem mem_written (read : parse cs = .ok h) (hc : c ∈ h.written) : IsHostChar c := by
  obtain ⟨a, rfl⟩ | names := bracketed_or_plain read
  · simp only [written, List.mem_cons, List.mem_append, List.not_mem_nil, or_false] at hc
    rcases hc with rfl | hc | rfl
    · decide
    · exact (isHostChar_of_ipv6 c hc).1
    · decide
  · exact (names c hc).isHostChar

theorem written_ne_nil (read : parse cs = .ok h) : h.written ≠ [] := by
  cases h with
  | domain name => exact (domain_of_parse read).1
  | ipv4 a => simp [written, Ipv4.toList_render]
  | ipv6 a => simp [written]

end Host

/-- The port behind a host, if there is one. -/
def portText : Option Nat → List Char
  | none => []
  | some n => ':' :: Nat.toDigits 10 n

theorem mem_portText (hc : c ∈ portText port?) : IsHostChar c := by
  cases port? with
  | none => cases hc
  | some n =>
    rcases List.mem_cons.1 hc with rfl | hc
    · decide
    · obtain ⟨d, hd, rfl⟩ := Ipv4.mem_toDigits (by decide) hc
      have all : ∀ d < 10, IsHostChar (Nat.digitChar d) := by decide
      exact all d hd

theorem next_portText (port? : Option Nat) : portText port? = [] ∨ (portText port?).head? = some ':' := by
  cases port? <;> simp [portText]

/-- The schemes of sites, with TLS and without. -/
def webScheme (tls : Bool) : String := if tls then "https" else "http"

theorem map_toLower_webScheme (tls : Bool) : (webScheme tls).toList.map Char.toLower = (webScheme tls).toList := by
  cases tls <;> decide

/-- A host under a scheme, with the port that is written behind it. -/
def siteText (scheme : String) (h : Host) (port? : Option Nat) : List Char :=
  scheme.toList ++ ("://".toList ++ (h.written ++ portText port?))

namespace Url

/-! ### Authorities -/

theorem splitHost_of_plain (plain : ∀ c ∈ cs, c ≠ ':' ∧ c ≠ '[' ∧ c ≠ ']') (next : rest = [] ∨ rest.head? = some ':') :
    splitHost false (cs ++ rest) = (cs, rest) := by
  induction cs with
  | nil =>
    match rest, next with
    | [], _ => rfl
    | c :: rest, .inr first =>
      obtain rfl : c = ':' := Option.some.inj first
      rfl
  | cons c cs ih =>
    obtain ⟨colon, opening, closing⟩ := plain c List.mem_cons_self
    have later := ih fun d hd => plain d (List.mem_cons_of_mem _ hd)
    simp [splitHost, colon, opening, closing, later]

theorem splitHost_bracketed (plain : ∀ c ∈ cs, c ≠ '[' ∧ c ≠ ']') (next : rest = [] ∨ rest.head? = some ':') :
    splitHost true (cs ++ ']' :: rest) = (cs ++ [']'], rest) := by
  induction cs with
  | nil =>
    have after : splitHost false ([] ++ rest) = ([], rest) := splitHost_of_plain (by simp) next
    rw [List.nil_append] at after
    simp [splitHost, after]
  | cons c cs ih =>
    obtain ⟨opening, closing⟩ := plain c List.mem_cons_self
    have later := ih fun d hd => plain d (List.mem_cons_of_mem _ hd)
    simp [splitHost, opening, closing, later]

theorem splitHost_written (read : Host.parse cs = .ok h) (next : rest = [] ∨ rest.head? = some ':') :
    splitHost false (h.written ++ rest) = (h.written, rest) := by
  obtain ⟨a, rfl⟩ | names := Host.bracketed_or_plain read
  · have inside := splitHost_bracketed (fun c hc => (Host.isHostChar_of_ipv6 (a := a) c hc).2) next
    simp [Host.written, splitHost, inside]
  · exact splitHost_of_plain (fun c hc => (names c hc).ne) next

end Url

/-- A text that is read as a host, and ends where an authority ends its host. -/
structure HostText (cs : List Char) (h : Host) : Prop where
  read : Host.parse cs = .ok h
  filled : cs ≠ []
  inner : ∀ c ∈ cs, IsInnerChar c
  ends : ∀ rest, rest = [] ∨ rest.head? = some ':' → Url.splitHost false (cs ++ rest) = (cs, rest)

theorem HostText.written (read : Host.parse h.written = .ok h) : HostText h.written h :=
  ⟨read, Host.written_ne_nil read, fun _ hc => (Host.mem_written read hc).inner, fun _ => Url.splitHost_written read⟩

/-! ### Letter case -/

theorem IsHostChar.of_toLower (h : IsHostChar c.toLower) : IsHostChar c :=
  forall_toLower (P := fun c d => IsHostChar d → IsHostChar c) (fun _ h => h) (by decide) c h

theorem Idna.IsNameChar.of_toLower (h : IsNameChar c.toLower) : IsNameChar c :=
  forall_toLower (P := fun c d => (d.toNat < 0x80 ∧ isForbidden d = false) → c.toNat < 0x80 ∧ isForbidden c = false)
    (fun _ h => h) (by decide) c h

theorem Idna.IsNameChar.toLower (h : IsNameChar c) : IsNameChar c.toLower :=
  forall_toLower (P := fun c d => (c.toNat < 0x80 ∧ isForbidden c = false) → d.toNat < 0x80 ∧ isForbidden d = false)
    (fun _ h => h) (by decide) c h

/-- A name and the same name in other letters are read alike. -/
theorem Host.parse_of_same_letters {ds : List Char} (names : ∀ c ∈ ds, Idna.IsNameChar c)
    (same : cs.map Char.toLower = ds.map Char.toLower) :
    Host.parse cs = Host.parse ds ∧ ∀ c ∈ cs, Idna.IsNameChar c := by
  have names' : ∀ c ∈ cs, Idna.IsNameChar c := by
    intro c hc
    obtain ⟨d, hd, lower⟩ := exists_same_letter same hc
    exact .of_toLower (lower ▸ (names d hd).toLower)
  have mapped : Idna.mapAll cs = Idna.mapAll ds := by
    rw [Idna.mapAll_of_ascii fun c hc => (names' c hc).1, Idna.mapAll_of_ascii fun c hc => (names c hc).1, same]
  refine ⟨?_, names'⟩
  rw [parse_of_allowed fun c hc => (names' c hc).2, parse_of_allowed fun c hc => (names c hc).2, Idna.toAscii,
    Idna.toAscii, mapped]

/-- The letters of a host may be of either case. -/
theorem HostText.of_same_letters (read : Host.parse h.written = .ok h)
    (same : hostText.map Char.toLower = h.written.map Char.toLower) : HostText hostText h := by
  have filled : hostText ≠ [] := by
    rintro rfl
    exact Host.written_ne_nil read (List.map_eq_nil_iff.1 same.symm)
  obtain ⟨a, rfl⟩ | names := Host.bracketed_or_plain read
  · obtain ⟨c, rest, rfl, opening, inside⟩ := List.map_eq_cons_iff.1 same
    obtain rfl : c = '[' := eq_of_toLower_eq rfl opening
    rw [List.map_append] at inside
    obtain ⟨digits, last, rfl, same_digits, closing⟩ := List.map_eq_append_iff.1 inside
    obtain rfl : last = [']'] := eq_of_map_toLower (by decide) closing
    have inner : ∀ c ∈ digits, IsHostChar c ∧ c ≠ '[' ∧ c ≠ ']' := by
      intro c hc
      obtain ⟨d, hd, lower⟩ := exists_same_letter same_digits hc
      have small : ∀ d < 16, IsHostChar (Nat.digitChar d).toLower ∧ (Nat.digitChar d).toLower ≠ '[' ∧
          (Nat.digitChar d).toLower ≠ ']' := by decide
      have here := Ipv6.forall_mem_render (p := fun d => IsHostChar d.toLower ∧ d.toLower ≠ '[' ∧ d.toLower ≠ ']') small
        (by decide) (by decide) d hd
      rw [lower, ne_eq, ne_eq, toLower_eq_iff rfl, toLower_eq_iff rfl] at here
      exact ⟨.of_toLower here.1, here.2⟩
    refine ⟨?_, filled, ?_, fun rest next => ?_⟩
    · have address : Ipv6.parse? digits = some a := by
        rw [← Ipv6.parse?_toLower, same_digits, Ipv6.parse?_toLower, Ipv6.parse?_render]
      rw [Host.parse, Host.parseBracketed, List.getLast?_concat, List.dropLast_concat, address]
      rfl
    · intro c hc
      rcases List.mem_cons.1 hc with rfl | hc
      · exact IsHostChar.inner (by decide)
      · rcases List.mem_append.1 hc with hc | hc
        · exact (inner c hc).1.inner
        · obtain rfl := List.mem_singleton.1 hc
          exact IsHostChar.inner (by decide)
    · have inside := Url.splitHost_bracketed (fun c hc => (inner c hc).2) next
      simp [Url.splitHost, inside]
  · obtain ⟨alike, names'⟩ := Host.parse_of_same_letters names same
    exact ⟨alike.trans read, filled, fun c hc => (names' c hc).isHostChar.inner,
      fun _ => Url.splitHost_of_plain fun c hc => (names' c hc).ne⟩

theorem HostText.authority (t : HostText hostText h) (hc : c ∈ hostText ++ portText port?) : IsInnerChar c := by
  rcases List.mem_append.1 hc with hc | hc
  · exact t.inner c hc
  · exact (mem_portText hc).inner

namespace Url

theorem parsePort_toDigits (small : n ≤ 65535) : parsePort (Nat.toDigits 10 n) = .ok (some n, []) := by
  have digits : (Nat.toDigits 10 n).takeWhile Char.isDigit = Nat.toDigits 10 n :=
    List.takeWhile_eq_self_iff.2 fun _ => Ipv4.isDigit_of_mem
  have beyond : (Nat.toDigits 10 n).dropWhile Char.isDigit = [] :=
    List.dropWhile_eq_nil_iff.2 fun _ => Ipv4.isDigit_of_mem
  have filled : Nat.toDigits 10 n ≠ [] := Nat.toDigits_ne_nil
  simp [parsePort, digits, beyond, Ipv4.decimalValue_toDigits, small, filled]

/-- The port that a URL keeps: none that its scheme implies. -/
def keptPort (scheme : String) (port? : Option Nat) : Option Nat :=
  if port? = defaultPort? scheme then none else port?

theorem parseHostPort_text (t : HostText hostText h) (small : ∀ n ∈ port?, n ≤ 65535) :
    parseHostPort scheme true (hostText ++ portText port?) = .ok (h, keptPort scheme port?, []) := by
  have filled : hostText.isEmpty = false := by simpa using t.filled
  rw [parseHostPort, t.ends _ (next_portText port?)]
  cases port? with
  | none => simp [filled, t.read, portText, keptPort]
  | some n => simp [filled, t.read, portText, keptPort, parsePort_toDigits (small n rfl)]

theorem splitAt?_of_not_mem (h : '@' ∉ cs) : splitAt? cs = none := by
  induction cs with
  | nil => rfl
  | cons c cs ih =>
    obtain ⟨hc, hcs⟩ := not_or.1 (mt List.mem_cons.2 h)
    rw [splitAt?, ih hcs]
    exact if_neg (Ne.symm hc)

theorem mem_authority (read : Host.parse cs = .ok h) (hc : c ∈ h.written ++ portText port?) : IsHostChar c := by
  rcases List.mem_append.1 hc with hc | hc
  · exact Host.mem_written read hc
  · exact mem_portText hc

theorem parseAuthority_text (t : HostText hostText h) (small : ∀ n ∈ port?, n ≤ 65535) :
    parseAuthority scheme true (hostText ++ portText port?) rest = .ok ⟨"", none, h, keptPort scheme port?, rest⟩ := by
  obtain ⟨no_user, other⟩ := no_user_of_inner fun c hc => t.authority (c := c) hc
  have info : splitUserInfo [] = ("", none) := rfl
  rw [parseAuthority, splitAt?_of_not_mem no_user]
  simp [other, info, parseHostPort_text t small]

/-- No authority has a host that is refused. -/
theorem parseAuthority_refused {fault : UrlFault} (read : Host.parse cs = .ok h)
    (refused : Host.parse h.written = .error fault) :
    parseAuthority scheme true (h.written ++ portText port?) rest = .error fault := by
  have inner : ∀ c ∈ h.written ++ portText port?, IsInnerChar c := fun c hc => (mem_authority read hc).inner
  obtain ⟨no_user, other⟩ := no_user_of_inner inner
  have filled : h.written.isEmpty = false := by simpa using Host.written_ne_nil read
  have host : parseHostPort scheme true (h.written ++ portText port?) = .error fault := by
    rw [parseHostPort, splitHost_written read (next_portText port?)]
    simp [filled, refused]
  rw [parseAuthority, splitAt?_of_not_mem no_user]
  simp [other, host]

/-- The part before the last at-sign is user info. -/
theorem splitAt?_append (after : '@' ∉ rest) : splitAt? (info ++ '@' :: rest) = some (info, rest) := by
  induction info with
  | nil => rw [List.nil_append, splitAt?, splitAt?_of_not_mem after]; rfl
  | cons c info ih => rw [List.cons_append, splitAt?, ih]

theorem parseAuthority_user (t : HostText hostText h) (small : ∀ n ∈ port?, n ≤ 65535) :
    parseAuthority scheme true (info ++ '@' :: (hostText ++ portText port?)) rest =
      .ok ⟨(splitUserInfo info).1, (splitUserInfo info).2, h, keptPort scheme port?, rest⟩ := by
  have no_user : '@' ∉ hostText ++ portText port? := (no_user_of_inner fun c hc => t.authority hc).1
  have other : info ++ '@' :: (hostText ++ portText port?) ≠ ['@'] := by
    intro alone
    have length := congrArg List.length alone
    have filled := List.length_pos_iff.2 t.filled
    simp only [List.length_append, List.length_cons, List.length_nil] at length
    omega
  have named : h ≠ .domain "" := by
    rintro rfl
    exact (Host.domain_of_parse t.read).1 rfl
  rw [parseAuthority, splitAt?_append no_user]
  simp [other, named, parseHostPort_text t small]

/-! ### Whole URLs -/

/-- What follows the authority of a URL. -/
def IsTail (rest : List Char) : Prop := rest = [] ∨ ∃ c cs, rest = c :: cs ∧ endsAuthority true c = true

/-- The URL that an authority and what is left for the path make. -/
def ofAuthority (scheme : String) (a : Authority) : Url :=
  let (path, query, fragment) := splitTail .web a.rest
  { scheme, username := a.username, password := a.password, host := some a.host, port := a.port,
    path := parsePath .web path, query, fragment }

/-- The URL of a site, with a path, a query and a fragment. -/
def ofSite (scheme : String) (h : Host) (port? : Option Nat) (rest : List Char) : Url :=
  let (path, query, fragment) := splitTail .web rest
  { scheme, host := some h, port := keptPort scheme port?, path := parsePath .web path, query, fragment }

/-- What follows an authority takes no part in how it is read. -/
theorem parseRemote_of_authority (scheme : String) (inner : ∀ c ∈ text, endsAuthority true c = false) (tail : IsTail rest) :
    parseRemote scheme .web (text ++ rest) = (parseAuthority scheme true text rest).map (ofAuthority scheme) := by
  have inner' : ∀ c ∈ text, (!endsAuthority true c) = true := fun c hc => by rw [inner c hc]; rfl
  have ends : rest.takeWhile (fun c => !endsAuthority true c) = [] ∧
      rest.dropWhile (fun c => !endsAuthority true c) = rest := by
    rcases tail with rfl | ⟨c, cs, rfl, ends⟩
    · exact ⟨rfl, rfl⟩
    · simp [ends]
  have first : (text ++ rest).takeWhile (fun c => !endsAuthority true c) = text := by
    rw [List.takeWhile_append_of_pos inner', ends.1, List.append_nil]
  have beyond : (text ++ rest).dropWhile (fun c => !endsAuthority true c) = rest := by
    rw [List.dropWhile_append_of_pos inner', ends.2]
  have web : (SchemeKind.web == SchemeKind.web) = true := rfl
  simp only [parseRemote, web, first, beyond]
  cases parseAuthority scheme true text rest <;> rfl

theorem dropWhile_eq_self {p : Char → Bool} (none : ∀ c ∈ cs, p c = false) : cs.dropWhile p = cs := by
  cases cs with
  | nil => rfl
  | cons c cs => exact List.dropWhile_cons_of_neg (by simp [none c List.mem_cons_self])

/-- Nothing is trimmed where nothing is to go. -/
theorem trim_eq_self {p : Char → Bool} (none : ∀ c ∈ cs, p c = false) :
    ((cs.dropWhile p).reverse.dropWhile p).reverse = cs := by
  have turned : ∀ c ∈ cs.reverse, p c = false := fun c hc => none c (List.mem_reverse.1 hc)
  rw [dropWhile_eq_self none, dropWhile_eq_self turned, List.reverse_reverse]

/-- Of what surrounds a text that stays as it is, as much as is to go on that side. -/
theorem trim_append {p : Char → Bool} {before : List Char} (leading : ∀ c ∈ before, p c = true)
    (none : ∀ c ∈ text, p c = false) (filled : text ≠ [])
    (next : (∀ c ∈ rest, p c = true) ∨ ∃ c cs, rest = c :: cs ∧ p c = false) :
    (((before ++ (text ++ rest)).dropWhile p).reverse.dropWhile p).reverse =
      text ++ ((rest.dropWhile p).reverse.dropWhile p).reverse := by
  have first : (text ++ rest).dropWhile p = text ++ rest := by
    obtain ⟨c, cs, rfl⟩ := List.exists_cons_of_ne_nil filled
    exact List.dropWhile_cons_of_neg (by simp [none c List.mem_cons_self])
  have turned : text.reverse.dropWhile p = text.reverse := dropWhile_eq_self fun c hc => none c (List.mem_reverse.1 hc)
  rw [List.dropWhile_append_of_pos leading, first, List.reverse_append]
  rcases next with all | ⟨c, cs, rfl, stays⟩
  · have all' : ∀ c ∈ rest.reverse, p c = true := fun c hc => all c (List.mem_reverse.1 hc)
    rw [List.dropWhile_append_of_pos all', turned, List.dropWhile_eq_nil_iff.2 all]
    simp
  · have some_left : (List.dropWhile p (c :: cs).reverse).isEmpty = false := by
      rw [← Bool.not_eq_true, List.isEmpty_iff, List.dropWhile_eq_nil_iff]
      exact fun all => absurd (all c (by simp)) (by simp [stays])
    rw [List.dropWhile_append, some_left, List.dropWhile_cons_of_neg (by simp [stays])]
    simp

theorem kept_of_graphic (graphic : 0x20 < c.toNat) : (c != '\t' && c != '\n' && c != '\r') = true := by
  have apart : ∀ d ∈ ['\t', '\n', '\r'], c ≠ d := by
    rintro d hd rfl
    have all : ∀ d ∈ ['\t', '\n', '\r'], ¬ 0x20 < d.toNat := by decide
    exact all c hd graphic
  simp [apart]

theorem clean_of_graphic (graphic : ∀ c ∈ cs, 0x20 < c.toNat) : clean cs = cs := by
  have edge : ∀ c ∈ cs, decide (c.toNat ≤ 0x20) = false := fun c hc => by simpa using graphic c hc
  rw [clean, trim_eq_self edge, List.filter_eq_self]
  exact fun c hc => kept_of_graphic (graphic c hc)

/-- Trimming leaves a first character that is to stay. -/
theorem exists_trim_cons {p : Char → Bool} (stays : p c = false) (cs : List Char) :
    ∃ cs', (((c :: cs).dropWhile p).reverse.dropWhile p).reverse = c :: cs' := by
  rw [List.dropWhile_cons_of_neg (by simp [stays]), List.reverse_cons, List.dropWhile_append]
  split
  · exact ⟨[], by simp [stays]⟩
  · exact ⟨_, by rw [List.reverse_append]; rfl⟩

theorem graphic_of_endsAuthority (ends : endsAuthority true c = true) : 0x20 < c.toNat := by
  simp only [endsAuthority, Bool.true_and, Bool.or_eq_true, beq_iff_eq] at ends
  rcases ends with ((rfl | rfl) | rfl) | rfl <;> decide

theorem clean_append (graphic : ∀ c ∈ text, 0x20 < c.toNat) (filled : text ≠ []) (tail : IsTail rest) :
    clean (text ++ rest) = text ++ clean rest := by
  have edge : ∀ c ∈ text, decide (c.toNat ≤ 0x20) = false := fun c hc => by simpa using graphic c hc
  have next : (∀ c ∈ rest, decide (c.toNat ≤ 0x20) = true) ∨ ∃ c cs, rest = c :: cs ∧ decide (c.toNat ≤ 0x20) = false := by
    rcases tail with rfl | ⟨c, cs, rfl, ends⟩
    · exact .inl (by simp)
    · exact .inr ⟨c, cs, rfl, by simpa using graphic_of_endsAuthority ends⟩
  have trimmed := trim_append (List.forall_mem_nil _) edge filled next
  rw [List.nil_append] at trimmed
  have kept := clean_of_graphic graphic
  rw [clean, trim_eq_self edge] at kept
  rw [clean, trimmed, List.filter_append, kept, clean]

theorem exists_clean_cons (graphic : 0x20 < c.toNat) (cs : List Char) : ∃ cs', clean (c :: cs) = c :: cs' := by
  obtain ⟨cs', trimmed⟩ := exists_trim_cons (p := fun c => decide (c.toNat ≤ 0x20)) (by simpa using graphic) cs
  have kept := kept_of_graphic graphic
  rw [Url.clean, trimmed, List.filter_cons, if_pos kept]
  exact ⟨_, rfl⟩

theorem IsTail.clean (tail : IsTail rest) : IsTail (clean rest) := by
  rcases tail with rfl | ⟨c, cs, rfl, ends⟩
  · exact .inl rfl
  · obtain ⟨cs', cleaned⟩ := exists_clean_cons (graphic_of_endsAuthority ends) cs
    exact .inr ⟨c, cs', cleaned, ends⟩

/-- The scheme may be written in letters of either case. -/
theorem splitScheme_of_lower (lower : lead.map Char.toLower = (webScheme tls).toList) (cs : List Char) :
    splitScheme (lead ++ ("://".toList ++ cs)) = some (webScheme tls, '/' :: '/' :: cs) := by
  have letters : ∀ c ∈ lead, c.isAlpha = true := by
    intro c hc
    have all : ∀ tls, ∀ c ∈ (webScheme tls).toList, c.isAlpha = true := by decide
    rw [← isAlpha_toLower]
    exact all tls _ (lower ▸ List.mem_map_of_mem hc)
  have scheme : ∀ c ∈ lead, isSchemeChar c = true := fun c hc => by simp [isSchemeChar, Char.isAlphanum, letters c hc]
  have colon : isSchemeChar ':' = false := by decide
  have first : (lead ++ ("://".toList ++ cs)).takeWhile isSchemeChar = lead := by
    rw [List.takeWhile_append_of_pos scheme]
    simp [colon]
  have beyond : (lead ++ ("://".toList ++ cs)).dropWhile isSchemeChar = ':' :: '/' :: '/' :: cs := by
    rw [List.dropWhile_append_of_pos scheme]
    simp [colon]
  cases lead with
  | nil =>
    have none : ∀ tls, [] ≠ (webScheme tls).toList := by decide
    exact absurd lower (none tls)
  | cons c lead =>
    rw [List.cons_append] at first beyond ⊢
    simp only [splitScheme, letters c List.mem_cons_self, if_true, first, beyond, lower, String.ofList_toList]

theorem schemeKind_web (tls : Bool) : schemeKind (webScheme tls) = .web := by
  cases tls <;> rfl

theorem mem_siteText (read : Host.parse cs = .ok h) (hc : c ∈ siteText (webScheme tls) h port?) :
    0x20 < c.toNat ∧ c.toNat < 0x7f := by
  have lead : ∀ tls, ∀ c ∈ (webScheme tls).toList ++ "://".toList, 0x20 < c.toNat ∧ c.toNat < 0x7f := by decide
  rw [siteText, ← List.append_assoc, List.mem_append] at hc
  rcases hc with hc | hc
  · exact lead tls c hc
  · exact ⟨(mem_authority read hc).1, (mem_authority read hc).2.1⟩

/-- A web URL is read as its authority is, or is no URL as the authority is none. What follows takes no part in it. -/
theorem parseChars_of_authority (lower : lead.map Char.toLower = (webScheme tls).toList)
    (inner : ∀ c ∈ text, endsAuthority true c = false ∧ 0x20 < c.toNat) (filled : text ≠ []) (tail : IsTail rest) :
    parseChars (lead ++ ("://".toList ++ (text ++ rest))) =
      (parseAuthority (webScheme tls) true text (clean rest)).map (ofAuthority (webScheme tls)) := by
  have graphic : ∀ c ∈ lead ++ ("://".toList ++ text), 0x20 < c.toNat := by
    intro c hc
    rcases List.mem_append.1 hc with hc | hc
    · have all : ∀ tls, ∀ c ∈ (webScheme tls).toList, 0x20 < c.toNat := by decide
      have small := all tls c.toLower (lower ▸ List.mem_map_of_mem hc)
      exact forall_toLower (P := fun c d => 0x20 < d.toNat → 0x20 < c.toNat) (fun _ h => h) (by decide) c small
    · rcases List.mem_append.1 hc with hc | hc
      · have marks : ∀ c ∈ "://".toList, 0x20 < c.toNat := by decide
        exact marks c hc
      · exact (inner c hc).2
  have cleaned := clean_append graphic (by simp) tail
  simp only [List.append_assoc] at cleaned
  have no_slash (rest : List Char) : (text ++ rest).dropWhile (isSlash true) = text ++ rest := by
    obtain ⟨c, text, rfl⟩ := List.exists_cons_of_ne_nil filled
    have mark := (inner c List.mem_cons_self).1
    refine List.dropWhile_cons_of_neg ?_
    simp only [endsAuthority, Bool.or_eq_false_iff] at mark
    simp [isSlash, mark]
  have slashes : ('/' :: '/' :: (text ++ clean rest)).dropWhile (isSlash true) = text ++ clean rest := no_slash _
  rw [parseChars, cleaned, splitScheme_of_lower lower]
  simp only [parseHierarchy, schemeKind_web, slashes, parseRemote_of_authority _ (fun c hc => (inner c hc).1) tail.clean]

/-- A site in other letters. -/
theorem parseChars_spelled (lower : lead.map Char.toLower = (webScheme tls).toList) (t : HostText hostText h)
    (small : ∀ n ∈ port?, n ≤ 65535) (tail : IsTail rest) :
    parseChars (lead ++ ("://".toList ++ (hostText ++ portText port? ++ rest))) =
      .ok (ofSite (webScheme tls) h port? (clean rest)) := by
  rw [parseChars_of_authority lower (fun c hc => ⟨(t.authority hc).endsAuthority_eq, (t.authority hc).1⟩)
    (by simp [t.filled]) tail, parseAuthority_text t small]
  rfl

theorem parseChars_site (read : Host.parse h.written = .ok h) (small : ∀ n ∈ port?, n ≤ 65535) (tail : IsTail rest)
    (graphic : ∀ c ∈ rest, 0x20 < c.toNat) :
    parseChars (siteText (webScheme tls) h port? ++ rest) = .ok (ofSite (webScheme tls) h port? rest) := by
  have site := parseChars_spelled (map_toLower_webScheme tls) (.written read) small tail
  rw [clean_of_graphic graphic] at site
  rwa [siteText, List.append_assoc, List.append_assoc]

/-- A site is no URL if its host is refused. -/
theorem parseChars_refused {fault : UrlFault} (read : Host.parse cs = .ok h)
    (refused : Host.parse h.written = .error fault) (tail : IsTail rest) :
    parseChars (siteText (webScheme tls) h port? ++ rest) = .error fault := by
  rw [siteText, List.append_assoc, List.append_assoc, parseChars_of_authority (map_toLower_webScheme tls)
    (fun c hc => ⟨(mem_authority read hc).inner.endsAuthority_eq, (mem_authority read hc).1⟩)
    (by simp [Host.written_ne_nil read]) tail, parseAuthority_refused read refused]
  rfl

/-! ### Where the host of a URL comes from -/

variable {u : Url}

theorem le_of_parsePort {p? : Option Nat} (parsed : parsePort cs = .ok (p?, rest)) : ∀ n ∈ p?, n ≤ 65535 := by
  unfold parsePort at parsed
  dsimp only at parsed
  split at parsed
  · cases parsed
  · rename_i small
    obtain ⟨rfl, -⟩ := Prod.mk.inj (Except.ok.inj parsed)
    split
    · rintro n ⟨⟩
    · rintro n ⟨⟩
      exact Nat.le_of_not_lt fun large => small (.inl large)

theorem host_of_parseHostPort {p? : Option Nat} (parsed : parseHostPort scheme true cs = .ok (h, p?, rest)) :
    (∃ text, Host.parse text = .ok h) ∧ ∀ n ∈ p?, n ≤ 65535 := by
  unfold parseHostPort at parsed
  dsimp only at parsed
  split at parsed
  · cases parsed
  · split at parsed
    · cases parsed
    · rename_i read
      split at parsed
      · cases parsed
        exact ⟨⟨_, read⟩, by rintro n ⟨⟩⟩
      · split at parsed
        · cases parsed
        · rename_i port _ read_port
          cases parsed
          refine ⟨⟨_, read⟩, ?_⟩
          split
          · rintro n ⟨⟩
          · exact le_of_parsePort read_port

theorem scheme_of_parseRemote {kind : SchemeKind} (parsed : parseRemote scheme kind cs = .ok u) :
    u.scheme = scheme := by
  unfold parseRemote at parsed
  dsimp only at parsed
  split at parsed <;> cases parsed
  rfl

theorem scheme_of_parseFile (parsed : parseFile cs = .ok u) : u.scheme = "file" := by
  unfold parseFile at parsed
  dsimp only at parsed
  repeat' split at parsed
  all_goals cases parsed
  all_goals rfl

theorem host_of_parseRemote (parsed : parseRemote scheme .web cs = .ok u) :
    (∃ text h, Host.parse text = .ok h ∧ u.host = some h) ∧ ∀ n ∈ u.port, n ≤ 65535 := by
  unfold parseRemote at parsed
  dsimp only at parsed
  split at parsed
  · cases parsed
  · rename_i a authority
    cases parsed
    unfold parseAuthority at authority
    dsimp only at authority
    split at authority
    · cases authority
    · split at authority
      · cases authority
      · rename_i read
        split at authority
        · cases authority
        · cases authority
          obtain ⟨⟨text, host⟩, small⟩ := host_of_parseHostPort read
          exact ⟨⟨text, _, host, rfl⟩, small⟩

/-- The host of a web URL was read as one, and its port is below 65536. -/
theorem host_of_parseChars (parsed : parseChars cs = .ok u) (web : u.scheme = webScheme tls) :
    (∃ text h, Host.parse text = .ok h ∧ u.host = some h) ∧ ∀ n ∈ u.port, n ≤ 65535 := by
  have kind : schemeKind u.scheme = .web := by rw [web, schemeKind_web]
  unfold parseChars at parsed
  split at parsed
  · cases parsed
  · unfold parseHierarchy at parsed
    split at parsed
    · exact host_of_parseRemote parsed
    · rw [scheme_of_parseFile parsed] at kind
      exact absurd kind (by decide)
    · rename_i scheme _ _ _ other
      have same : u.scheme = scheme := by
        split at parsed
        · exact scheme_of_parseRemote parsed
        · rw [← Except.ok.inj parsed]; rfl
      rw [same, other] at kind
      cases kind

end Url

end IdentityClient
