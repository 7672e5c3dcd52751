import IdentityClient.Net.Url.Host
import IdentityClient.Proofs.Net.Idna.Ascii
import IdentityClient.Proofs.Net.Ipv6
import IdentityClient.Proofs.Net.Percent

/-!
# Written hosts read back

A host is written as it is read in a URL, an IPv6 address in brackets (`Host.written`). It is read back from that
(`Host.parse_written_of_codesFit`), unless it is a name with a coded label that is too long to be read
(`Host.parse_written_of_long`). For addresses and plain names this needs no tables; `Host.parse_written` takes for granted
what they say about any other name.
-/

namespace IdentityClient

variable {c : Char} {cs : List Char} {name : String} {h : Host}

namespace Host

/-! ### What is read -/

theorem ofAsciiName_domain {cs : List Char} (read : ofAsciiName cs = .ok (.domain name)) :
    name.toList = cs ∧ cs ≠ [] ∧ Ipv4.endsInNumber cs = false := by
  unfold ofAsciiName at read
  split at read
  · cases read
  · rename_i filled
    split at read
    · split at read <;> cases read
    · rename_i words
      obtain rfl : String.ofList cs = name := by simpa using read
      exact ⟨String.toList_ofList, by simpa using filled, by simpa using words⟩

/-- A domain that is read is the ASCII form of some name. -/
theorem toAscii_of_parse (read : parse cs = .ok (.domain name)) : name.toList ≠ [] ∧
    Ipv4.endsInNumber name.toList = false ∧ ∃ decoded, Idna.toAscii decoded = some name.toList := by
  unfold parse at read
  split at read
  · unfold parseBracketed at read
    split at read
    · split at read <;> cases read
    · cases read
  · split at read
    · cases read
    · split at read
      · cases read
      · rename_i toAscii
        obtain ⟨rfl, filled, words⟩ := ofAsciiName_domain read
        exact ⟨filled, words, _, toAscii⟩

/-- A domain that is read is in ASCII, and neither empty nor an address. -/
theorem domain_of_parse (read : parse cs = .ok (.domain name)) : name.toList ≠ [] ∧
    Ipv4.endsInNumber name.toList = false ∧ ∀ c ∈ name.toList, Idna.IsNameChar c := by
  obtain ⟨filled, words, decoded, toAscii⟩ := toAscii_of_parse read
  exact ⟨filled, words, fun c hc => Idna.mem_toAscii toAscii hc⟩

/-! ### Written forms -/

/-- A host as an issuer writes it. -/
def written : Host → List Char
  | .domain name => name.toList
  | .ipv4 a => a.render.toList
  | .ipv6 a => '[' :: (a.render.toList ++ [']'])

/-- Without forbidden characters there is nothing to be decoded. -/
theorem parse_of_allowed (allowed : ∀ c ∈ cs, Idna.isForbidden c = false) :
    parse cs = (Idna.toAscii cs).elim (.error .internationalName) ofAsciiName := by
  have no_bracket : ∀ rest, cs ≠ '[' :: rest := by
    rintro rest rfl
    exact absurd (allowed '[' List.mem_cons_self) (by decide)
  have no_percent : '%' ∉ cs := fun h => absurd (allowed '%' h) (by decide)
  unfold parse
  split
  · exact absurd rfl (no_bracket _)
  · have decoded : Utf8.decodeChars (Percent.decode cs) = .ok cs := by
      rw [Percent.decode_of_not_mem no_percent, Utf8.decodeChars_encodeChars]
    simp only [decoded]
    cases Idna.toAscii cs <;> rfl

theorem parse_of_plain (plain : Idna.isPlain cs = true) (allowed : ∀ c ∈ cs, Idna.isForbidden c = false) :
    parse cs = ofAsciiName cs := by
  rw [parse_of_allowed allowed, Idna.toAscii_of_plain plain allowed, Option.elim_some]

theorem parse_domain (plain : Idna.isPlain name.toList = true) (filled : name.toList ≠ [])
    (words : Ipv4.endsInNumber name.toList = false) (allowed : ∀ c ∈ name.toList, Idna.isForbidden c = false) :
    parse name.toList = .ok (.domain name) := by
  have is_filled : name.toList.isEmpty = false := by simpa using filled
  rw [parse_of_plain plain allowed, ofAsciiName, is_filled, words, String.ofList_toList]
  rfl

/-- Digits and dots are a plain name. -/
theorem plain_of_digit (h : (∃ d < 10, c = Nat.digitChar d) ∨ c = '.') :
    (c.toNat < 0x80 ∧ c.toLower = c) ∧ Idna.isForbidden c = false ∧ c ≠ 'x' := by
  rcases h with ⟨d, hd, rfl⟩ | rfl
  · have all : ∀ d < 10, ((Nat.digitChar d).toNat < 0x80 ∧ (Nat.digitChar d).toLower = Nat.digitChar d) ∧
        Idna.isForbidden (Nat.digitChar d) = false ∧ Nat.digitChar d ≠ 'x' := by decide
    exact all d hd
  · decide

theorem isPlain_render (a : Ipv4) : Idna.isPlain a.render.toList = true := by
  have uncoded : ∀ label ∈ Idna.labelsOf a.render.toList, Idna.codedMark.isPrefixOf label = false := by
    intro label hl
    refine Bool.eq_false_iff.2 fun coded => ?_
    have mark : 'x' ∈ label := (List.isPrefixOf_iff_prefix.1 coded).subset (by decide)
    exact (plain_of_digit (Ipv4.mem_render (Idna.mem_of_mem_labelsOf hl mark))).2.2 rfl
  simp only [Idna.isPlain, Bool.and_eq_true, List.all_eq_true, decide_eq_true_eq, beq_iff_eq, Bool.not_eq_true']
  exact ⟨fun c hc => (plain_of_digit (Ipv4.mem_render hc)).1, uncoded⟩

theorem parse_ipv4 (a : Ipv4) : parse a.render.toList = .ok (.ipv4 a) := by
  have allowed : ∀ c ∈ a.render.toList, Idna.isForbidden c = false :=
    fun c hc => (plain_of_digit (Ipv4.mem_render hc)).2.1
  have filled : a.render.toList.isEmpty = false := by simp [Ipv4.toList_render]
  rw [parse_of_plain (isPlain_render a) allowed, ofAsciiName, filled, Ipv4.endsInNumber_render,
    Ipv4.parseLoose?_render]
  rfl

theorem parse_ipv6 (a : Ipv6) : parse ('[' :: (a.render.toList ++ [']'])) = .ok (.ipv6 a) := by
  rw [parse, parseBracketed, List.getLast?_concat, List.dropLast_concat, Ipv6.parse?_render]
  rfl

theorem parse_written (read : parse cs = .ok h) (fixed : ∀ name, h = .domain name →
    Idna.isPlain name.toList = false → parse name.toList = .ok (.domain name)) : parse h.written = .ok h := by
  cases h with
  | ipv4 a => exact parse_ipv4 a
  | ipv6 a => exact parse_ipv6 a
  | domain name =>
    obtain ⟨filled, words, chars⟩ := domain_of_parse read
    cases plain : Idna.isPlain name.toList with
    | true => exact parse_domain plain filled words fun c hc => (chars c hc).2
    | false => exact fixed name rfl plain

/-- A name that was read is read as itself, unless a coded part of it is too long. -/
theorem parse_domain_of_parse (read : parse cs = .ok (.domain name)) : parse name.toList =
    if Idna.codesFit name.toList then .ok (.domain name) else .error .internationalName := by
  obtain ⟨filled, words, decoded, toAscii⟩ := toAscii_of_parse read
  have is_filled : name.toList.isEmpty = false := by simpa using filled
  rw [parse_of_allowed fun c hc => (Idna.mem_toAscii toAscii hc).2, Idna.toAscii_of_toAscii toAscii]
  cases Idna.codesFit name.toList with
  | true => simp [ofAsciiName, is_filled, words]
  | false => rfl

/-- Whether the written form of a host is short enough to be read. -/
def codesFit : Host → Bool
  | .domain name => Idna.codesFit name.toList
  | .ipv4 _ => true
  | .ipv6 _ => true

theorem codesFit_ipv4 (a : Ipv4) : Idna.codesFit a.render.toList = true :=
  Idna.codesFit_of_not_mem fun h => (plain_of_digit (Ipv4.mem_render h)).2.2 rfl

theorem codesFit_ipv6 (a : Ipv6) : Idna.codesFit a.render.toList = true := by
  refine Idna.codesFit_of_not_mem fun h => ?_
  exact Ipv6.forall_mem_render (p := (· ≠ 'x')) (by decide) (by decide) (by decide) 'x' h rfl

theorem parse_written_of_codesFit (read : parse cs = .ok h) (fit : h.codesFit = true) : parse h.written = .ok h := by
  cases h with
  | ipv4 a => exact parse_ipv4 a
  | ipv6 a => exact parse_ipv6 a
  | domain name => exact (parse_domain_of_parse read).trans (if_pos fit)

theorem parse_written_of_long (read : parse cs = .ok h) (long : h.codesFit = false) :
    parse h.written = .error .internationalName := by
  cases h with
  | ipv4 a => cases long
  | ipv6 a => cases long
  | domain name =>
    rw [codesFit] at long
    exact (parse_domain_of_parse read).trans (if_neg (by simp [long]))

end Host

end IdentityClient
