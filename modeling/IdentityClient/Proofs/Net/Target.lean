import IdentityClient.Net.Uri
import IdentityClient.Proofs.Net.Site

/-!
# Sites as request targets

A request target is read without looking into its host, by one scan of the authority for characters and balance. Of the
hosts that URLs know, a scan takes all but the names with a character that no authority may hold (`Authority.isRefused`);
from what it takes, host and port are found again as they were written.
-/

namespace IdentityClient

variable {c : Char} {cs rest : List Char} {h : Host} {port? : Option Nat} {n : Nat} {tls : Bool}

namespace Authority

/-- What a name may hold, and an authority may not. -/
def isRefused (c : Char) : Bool := "\"`\x7b\x7d".toList.contains c

theorem isPlain_of_isNameChar (hc : Idna.IsNameChar c) : isPlain c = !isRefused c := by
  obtain ⟨ascii, allowed⟩ := hc
  have all : ∀ n < 0x80, Idna.isForbidden (Char.ofNat n) = false → isPlain (Char.ofNat n) = !isRefused (Char.ofNat n) := by
    decide
  have here := all c.toNat ascii
  rw [Char.ofNat_toNat] at here
  exact here allowed

/-! ### Scans -/

namespace Scan

variable {s : Scan}

theorem run_append (s : Scan) (cs ds : List Char) : s.run (cs ++ ds) = (s.run cs).bind fun s => s.run ds := by
  induction cs generalizing s with
  | nil => rfl
  | cons c cs ih =>
    rw [List.cons_append, run, run]
    cases s.next c with
    | error e => rfl
    | ok s' => exact ih s'

theorem next_plain (plain : isPlain c = true) (fresh : s.atLast = false) : s.next c = .ok s := by
  have apart : ∀ d ∈ [':', '[', ']', '@', '%'], c ≠ d := by
    rintro d hd rfl
    have all : ∀ d ∈ [':', '[', ']', '@', '%'], isPlain d = false := by decide
    rw [all c hd] at plain
    cases plain
  obtain ⟨colons, opened, closed, percent, atLast⟩ := s
  cases fresh
  simp [next, apart, plain]

/-- Colons are counted, and nothing else happens among plain characters. -/
theorem run_colons (plain : ∀ c ∈ cs, isPlain c = true ∨ c = ':') (fresh : s.atLast = false)
    (room : s.colons + cs.count ':' ≤ maxColons) : s.run cs = .ok { s with colons := s.colons + cs.count ':' } := by
  induction cs generalizing s with
  | nil => rfl
  | cons c cs ih =>
    have later : ∀ c ∈ cs, isPlain c = true ∨ c = ':' := fun d hd => plain d (List.mem_cons_of_mem _ hd)
    rw [run]
    by_cases colon : c = ':'
    · subst colon
      rw [List.count_cons_self] at room ⊢
      have below : ¬ maxColons ≤ s.colons := by omega
      have step : s.next ':' = .ok { s with colons := s.colons + 1 } := by
        obtain ⟨colons, opened, closed, percent, atLast⟩ := s
        cases fresh
        simpa [next] using below
      have counted := ih (s := { s with colons := s.colons + 1 }) later fresh (by dsimp only; omega)
      simpa only [step, Nat.add_assoc, Nat.add_comm 1] using counted
    · rw [List.count_cons_of_ne colon] at room ⊢
      rw [next_plain ((plain c List.mem_cons_self).resolve_right colon) fresh]
      exact ih later fresh room

/-- A name is taken up to the first character that is refused. -/
theorem run_name (names : ∀ c ∈ cs, Idna.IsNameChar c) (fresh : s.atLast = false) :
    s.run cs = if cs.any isRefused then .error .badCharacter else .ok s := by
  induction cs with
  | nil => rfl
  | cons c cs ih =>
    have first := names c List.mem_cons_self
    have plain := isPlain_of_isNameChar first
    cases refused : isRefused c with
    | false =>
      rw [refused] at plain
      rw [run, next_plain plain fresh]
      simpa [refused] using ih fun d hd => names d (List.mem_cons_of_mem _ hd)
    | true =>
      have apart : ∀ d ∈ [':', '[', ']', '@', '%'], c ≠ d := by
        rintro d hd rfl
        have all : ∀ d ∈ [':', '[', ']', '@', '%'], isRefused d = false := by decide
        rw [all c hd] at refused
        cases refused
      simp [run, next, apart, plain, refused]

theorem run_digits (fresh : s.atLast = false) (room : s.colons < maxColons) :
    s.run (portText port?) = .ok { s with colons := s.colons + port?.toList.length } := by
  cases port? with
  | none => rfl
  | some n =>
    have digits : ∀ c ∈ portText (some n), isPlain c = true ∨ c = ':' := by
      intro c hc
      rcases List.mem_cons.1 hc with rfl | hc
      · exact .inr rfl
      · obtain ⟨d, hd, rfl⟩ := Ipv4.mem_toDigits (by decide) hc
        have all : ∀ d < 10, isPlain (Nat.digitChar d) = true := by decide
        exact .inl (all d hd)
    have once : (portText (some n)).count ':' = 1 := by
      rw [portText, List.count_cons_self, List.count_eq_zero_of_not_mem (Ipv4.not_mem_toDigits (by decide))]
    have counted := run_colons digits fresh (by omega)
    rwa [once] at counted

/-- Brackets are closed again, with the colons between them forgotten. -/
theorem run_ipv6 (a : Ipv6) :
    start.run (Host.written (.ipv6 a)) = .ok { start with opened := true, closed := true } := by
  have plain : ∀ c ∈ a.render.toList, isPlain c = true ∨ c = ':' :=
    Ipv6.forall_mem_render (by decide) (by decide) (by decide)
  have room : start.colons + a.render.toList.count ':' ≤ maxColons := (Nat.zero_add _).trans_le a.count_colon_render
  have inside := run_colons (s := { start with opened := true }) plain rfl room
  have opening : start.next '[' = .ok { start with opened := true } := rfl
  rw [Host.written, run, opening]
  dsimp only
  rw [run_append, inside]
  rfl

end Scan

/-- The scan of a site's authority ends well, or at a character that is refused. -/
theorem run_written (port? : Option Nat) (read : Host.parse cs = .ok h) : (h.written.any isRefused = true ∧
    Scan.start.run (h.written ++ portText port?) = .error .badCharacter) ∨ (h.written.any isRefused = false ∧
      ∃ s : Scan, Scan.start.run (h.written ++ portText port?) = .ok s ∧ s.isComplete = true) := by
  have short : port?.toList.length ≤ 1 := by cases port? <;> simp
  rw [Scan.run_append]
  obtain ⟨a, rfl⟩ | names := Host.bracketed_or_plain read
  · have inner : ∀ c ∈ a.render.toList, ¬ isRefused c = true :=
      Ipv6.forall_mem_render (by decide) (by decide) (by decide)
    have refused : (Host.written (.ipv6 a)).any isRefused = false := by
      rw [List.any_eq_false]
      intro c hc
      simp only [Host.written, List.mem_cons, List.mem_append, List.not_mem_nil, or_false] at hc
      rcases hc with rfl | hc | rfl
      · decide
      · exact inner c hc
      · decide
    have ended : Scan.run { Scan.start with opened := true, closed := true } (portText port?) = _ :=
      Scan.run_digits rfl (by decide)
    rw [Scan.run_ipv6]
    exact .inr ⟨refused, _, ended, by simp [Scan.isComplete, Scan.start, short]⟩
  · rw [Scan.run_name names rfl]
    cases h.written.any isRefused with
    | true => exact .inl ⟨rfl, rfl⟩
    | false => exact .inr ⟨rfl, _, Scan.run_digits rfl (by decide), by simp [Scan.isComplete, Scan.start, short]⟩

theorem split_written (read : Host.parse cs = .ok h) : split (h.written ++ portText port?) =
    if h.written.any isRefused then .error .badCharacter else .ok (h.written ++ portText port?, []) := by
  have inner : ∀ c ∈ h.written ++ portText port?, (!endsAuthority c) = true := by
    intro c hc
    have marks := (Url.mem_authority read hc).2.2
    simp only [List.mem_cons, List.not_mem_nil, or_false, not_or] at marks
    simp [endsAuthority, marks]
  have text := List.takeWhile_eq_self_iff.2 inner
  have beyond := List.dropWhile_eq_nil_iff.2 inner
  have filled : (h.written ++ portText port?).isEmpty = false := by simp [Host.written_ne_nil read]
  simp only [split, filled, text, beyond]
  obtain ⟨refused, scanned⟩ | ⟨taken, s, scanned, complete⟩ := run_written port? read
  · simp [scanned, refused]
  · simp [scanned, taken, complete]

/-! ### Host and port -/

theorem afterLast?_of_not_mem {mark : Char} (h : mark ∉ cs) : afterLast? mark cs = none := by
  induction cs with
  | nil => rfl
  | cons c cs ih =>
    obtain ⟨hc, hcs⟩ := not_or.1 (mt List.mem_cons.2 h)
    rw [afterLast?, ih hcs]
    exact if_neg (Ne.symm hc)

theorem afterLast?_append {mark : Char} (cs : List Char) (h : mark ∉ rest) :
    afterLast? mark (cs ++ mark :: rest) = some rest := by
  induction cs with
  | nil =>
    rw [List.nil_append, afterLast?, afterLast?_of_not_mem h]
    exact if_pos rfl
  | cons c cs ih => rw [List.cons_append, afterLast?, ih]

/-- What follows a mark that does not come last ends as the whole text does. -/
theorem mem_afterLast? {mark : Char} (other : c ≠ mark) (h : afterLast? mark (cs ++ [c]) = some rest) : c ∈ rest := by
  induction cs with
  | nil => simp [afterLast?, other] at h
  | cons d cs ih =>
    rw [List.cons_append, afterLast?] at h
    split at h
    · rename_i tail after
      rw [Option.some.inj h] at after
      exact ih after
    · split at h
      · rw [← Option.some.inj h]
        exact List.mem_append_right _ List.mem_cons_self
      · cases h

theorem portNumber?_of_mem (hc : c ∈ cs) (other : c.isDigit = false) (sign : c ≠ '+') : portNumber? cs = none := by
  have part (ds : List Char) (h : c ∈ ds) : ds.all Char.isDigit = false := List.all_eq_false.2 ⟨c, h, by simp [other]⟩
  unfold portNumber?
  split
  · simp [part _ ((List.mem_cons.1 hc).resolve_left sign)]
  · simp [part _ hc]

theorem portNumber?_toDigits (small : n ≤ 65535) : portNumber? (Nat.toDigits 10 n) = some n := by
  have value : (Nat.toDigits 10 n).foldl (fun n c => n * 10 + (c.toNat - '0'.toNat)) 0 = n :=
    Ipv4.decimalValue_toDigits n
  unfold portNumber?
  split
  · rename_i rest text
    exact absurd (text ▸ List.mem_cons_self) (Ipv4.not_mem_toDigits (c := '+') (n := n) (by decide))
  · have below : n < 65536 := by omega
    have digits : ((Nat.toDigits 10 n).isEmpty || !(Nat.toDigits 10 n).all Char.isDigit) = false := by
      simp [Nat.toDigits_ne_nil, Ipv4.all_isDigit_toDigits]
    simp only [digits, value, below, if_true, Bool.false_eq_true, if_false]

theorem host_written (read : Host.parse cs = .ok h) :
    host (String.ofList (h.written ++ portText port?)) = String.ofList h.written := by
  have no_user : '@' ∉ h.written ++ portText port? := fun hc => (Url.mem_authority read hc).2.2 (by decide)
  rw [host, String.toList_ofList, afterLast?_of_not_mem no_user, Option.getD_none]
  obtain ⟨a, rfl⟩ | names := Host.bracketed_or_plain read
  · have inner : ∀ c ∈ '[' :: a.render.toList, (c != ']') = true := by
      intro c hc
      rcases List.mem_cons.1 hc with rfl | hc
      · rfl
      · simpa using (Host.isHostChar_of_ipv6 c hc).2.2
    have text : Host.written (.ipv6 a) ++ portText port? = '[' :: a.render.toList ++ ']' :: portText port? := by
      simp [Host.written]
    rw [text]
    simp only [List.cons_append]
    rw [← List.cons_append, List.takeWhile_append_of_pos inner, List.takeWhile_cons_of_neg (by decide)]
    simp [Host.written]
  · have inner : ∀ c ∈ h.written, (c != ':') = true := fun c hc => by simpa using (names c hc).ne.1
    have text : (h.written ++ portText port?).takeWhile (· != ':') = h.written := by
      rw [List.takeWhile_append_of_pos inner]
      cases port? <;> simp [portText]
    split
    · rename_i rest bracket
      cases written : h.written with
      | nil => exact absurd written (Host.written_ne_nil read)
      | cons c cs =>
        rw [written, List.cons_append] at bracket
        have first : c ∈ h.written := by rw [written]; exact List.mem_cons_self
        exact absurd (List.cons.inj bracket).1 (names c first).ne.2.1
    · rw [text]

theorem port?_written (read : Host.parse cs = .ok h) (small : ∀ n ∈ port?, n ≤ 65535) :
    Authority.port? (String.ofList (h.written ++ portText port?)) = port? := by
  cases port? with
  | some n =>
    have digits : ':' ∉ Nat.toDigits 10 n := Ipv4.not_mem_toDigits (by decide)
    rw [Authority.port?, String.toList_ofList, portText, afterLast?_append _ digits]
    exact portNumber?_toDigits (small n rfl)
  | none =>
    rw [Authority.port?, String.toList_ofList, portText, List.append_nil]
    obtain ⟨a, rfl⟩ | names := Host.bracketed_or_plain read
    · -- The last colon stands in the brackets, so no number follows it.
      cases after : afterLast? ':' (Host.written (.ipv6 a)) with
      | none => rfl
      | some rest =>
        have ended : afterLast? ':' (('[' :: a.render.toList) ++ [']']) = some rest := after
        have closing : ']' ∈ rest := mem_afterLast? (by decide) ended
        exact portNumber?_of_mem closing (by decide) (by decide)
    · have no_colon : ':' ∉ h.written := fun hc => (names ':' hc).ne.1 rfl
      rw [afterLast?_of_not_mem no_colon]
      rfl

end Authority

namespace Uri

theorem splitScheme_web (tls : Bool) (cs : List Char) :
    splitScheme ((webScheme tls).toList ++ ("://".toList ++ cs)) = .ok (some (if tls then .https else .http), cs) := by
  cases tls <;> rfl

/-- A text that starts with a web scheme is read with that scheme, unless it is too long. -/
theorem parse_web {text : String} (lead : text.toList = (webScheme tls).toList ++ ("://".toList ++ cs)) :
    parse text = if maxLength < text.utf8ByteSize then .error .tooLong else parseFull text.toList := by
  unfold parse
  rw [lead]
  cases tls <;> rfl

theorem scheme_of_parse_web {text : String} {u : Uri} (lead : text.toList = (webScheme tls).toList ++ ("://".toList ++ cs))
    (parsed : parse text = .ok u) : u.scheme = some (if tls then .https else .http) := by
  rw [parse_web lead] at parsed
  split at parsed
  · cases parsed
  · rw [lead, parseFull, splitScheme_web] at parsed
    generalize (if tls then Scheme.https else .http) = scheme at parsed ⊢
    dsimp only at parsed
    repeat' split at parsed
    all_goals cases parsed
    rfl

theorem parse_site {text : String} (site : text.toList = siteText (webScheme tls) h port?)
    (read : Host.parse cs = .ok h) : parse text = if maxLength < text.utf8ByteSize then .error .tooLong
      else if h.written.any Authority.isRefused then .error .badCharacter
      else .ok ⟨some (if tls then .https else .http), some (String.ofList (h.written ++ portText port?)), ⟨"", none⟩⟩ := by
  have filled : (h.written ++ portText port?).isEmpty = false := by simp [Host.written_ne_nil read]
  have nothing : PathQuery.parse [] = .ok ⟨"", none⟩ := rfl
  rw [parse_web site, site, siteText, parseFull, splitScheme_web]
  dsimp only
  rw [Authority.split_written read]
  cases h.written.any Authority.isRefused with
  | true => rfl
  | false => simp [filled, nothing]

end Uri

end IdentityClient
