import IdentityClient.Net.Url.Idna.Name
import IdentityClient.Proofs.Net.Ipv4

/-!
# Names in ASCII

What `Idna.toAscii` gives holds ASCII only, and nothing that a host may not hold (`Idna.mem_toAscii`): coding a label
adds letters, digits and hyphens to what stands in it. A plain name, in lower case and without coded labels, is its own
ASCII form (`Idna.toAscii_of_plain`).
-/

namespace IdentityClient

namespace Idna

variable {c : Char} {cs name normal : List Char} {parts : List (List Char)}

/-! ### Coded labels -/

namespace Punycode

theorem threshold_le (k bias : Nat) : threshold k bias ≤ 26 := by
  unfold threshold
  split
  · decide
  · split <;> omega

/-- A digit of a coded number. -/
def IsDigit (c : Char) : Prop := ∃ d < 36, c = digitChar d

theorem mem_writeNumber {bias fuel k q : Nat} (h : c ∈ writeNumber bias fuel k q) : IsDigit c := by
  induction fuel generalizing k q with
  | zero => cases h
  | succ fuel ih =>
    have low := one_le_threshold k bias
    have high := threshold_le k bias
    rw [writeNumber] at h
    split at h
    · rw [List.mem_singleton] at h
      exact ⟨q, by omega, h⟩
    · rcases List.mem_cons.1 h with rfl | h
      · have := Nat.mod_lt (q - threshold k bias) (show 0 < 36 - threshold k bias by omega)
        exact ⟨_, by omega, rfl⟩
      · exact ih h

theorem mem_pass {basic m : Nat} {w : Writing} (d : Char) (hw : ∀ c ∈ w.out, IsDigit c)
    (h : c ∈ (w.pass basic m d).out) : IsDigit c := by
  unfold Writing.pass at h
  split at h
  · exact hw c h
  · split at h
    · rcases List.mem_append.1 h with h | h
      · exact mem_writeNumber (List.mem_reverse.1 h)
      · exact hw c h
    · exact hw c h

theorem mem_passAll {basic m : Nat} {w : Writing} (hw : ∀ c ∈ w.out, IsDigit c) :
    ∀ c ∈ (cs.foldl (Writing.pass basic m) w).out, IsDigit c := by
  induction cs generalizing w with
  | nil => exact hw
  | cons d cs ih => exact ih fun _ => mem_pass d hw

theorem mem_writeCharacters {basic fuel n : Nat} {w : Writing} (hw : ∀ c ∈ w.out, IsDigit c)
    (h : c ∈ (writeCharacters basic cs fuel n w).out) : IsDigit c := by
  induction fuel generalizing n w with
  | zero => exact hw c h
  | succ fuel ih =>
    rw [writeCharacters] at h
    split at h
    · exact hw c h
    · refine ih ?_ h
      exact mem_passAll hw

theorem mem_encode (h : c ∈ encode cs) : (c ∈ cs ∧ c.toNat < 0x80) ∨ c = '-' ∨ IsDigit c := by
  simp only [encode, List.mem_append, List.mem_filter, decide_eq_true_eq, List.mem_reverse] at h
  rcases h with (h | h) | h
  · exact .inl h
  · split at h
    · cases h
    · exact .inr (.inl (List.mem_singleton.1 h))
  · exact .inr (.inr (mem_writeCharacters (by simp) h))

end Punycode

/-! ### Labels -/

theorem labelsOf_eq (cs : List Char) : labelsOf cs = cs.splitOn '.' := eq_splitOn rfl (fun _ _ => rfl) cs

theorem joinLabels_cons_cons (part part' : List Char) (parts : List (List Char)) :
    joinLabels (part :: part' :: parts) = part ++ '.' :: joinLabels (part' :: parts) := rfl

theorem joinLabels_eq (parts : List (List Char)) : joinLabels parts = ['.'].intercalate parts := by
  induction parts with
  | nil => rfl
  | cons part parts ih =>
    cases parts with
    | nil => exact List.intercalate_singleton.symm
    | cons part' parts => rw [joinLabels_cons_cons, ih, List.intercalate_cons_cons, List.append_assoc]; rfl

theorem joinLabels_labelsOf (cs : List Char) : joinLabels (labelsOf cs) = cs := by
  rw [joinLabels_eq, labelsOf_eq, List.intercalate_splitOn]

theorem mem_joinLabels (h : c ∈ joinLabels parts) : c = '.' ∨ ∃ part ∈ parts, c ∈ part := by
  induction parts with
  | nil => cases h
  | cons part parts ih =>
    cases parts with
    | nil => exact .inr ⟨part, List.mem_cons_self, h⟩
    | cons part' parts =>
      rw [joinLabels_cons_cons, List.mem_append, List.mem_cons] at h
      rcases h with h | rfl | h
      · exact .inr ⟨part, List.mem_cons_self, h⟩
      · exact .inl rfl
      · obtain hc | ⟨p, hp, hc⟩ := ih h
        · exact .inl hc
        · exact .inr ⟨p, List.mem_cons_of_mem _ hp, hc⟩

theorem mem_joinLabels_of_mem {part : List Char} (hp : part ∈ parts) (hc : c ∈ part) : c ∈ joinLabels parts := by
  induction parts with
  | nil => cases hp
  | cons first parts ih =>
    cases parts with
    | nil => rwa [List.mem_singleton.1 hp] at hc
    | cons second parts =>
      rw [joinLabels_cons_cons, List.mem_append, List.mem_cons]
      rcases List.mem_cons.1 hp with rfl | hp
      · exact .inl hc
      · exact .inr (.inr (ih hp))

theorem mem_of_mem_labelsOf {label : List Char} (hl : label ∈ labelsOf cs) (hc : c ∈ label) : c ∈ cs := by
  rw [← joinLabels_labelsOf cs]
  exact mem_joinLabels_of_mem hl hc

/-! ### ASCII forms -/

/-- A character that may stand in a host in ASCII. -/
def IsNameChar (c : Char) : Prop := c.toNat < 0x80 ∧ isForbidden c = false

theorem IsNameChar.of_digit (h : Punycode.IsDigit c) : IsNameChar c := by
  obtain ⟨d, hd, rfl⟩ := h
  have all : ∀ d < 36, (Punycode.digitChar d).toNat < 0x80 ∧ isForbidden (Punycode.digitChar d) = false := by decide
  exact all d hd

theorem mem_closeLabel {label : List Char} (allowed : ∀ c ∈ label, isForbidden c = false)
    (h : c ∈ closeLabel label) : IsNameChar c := by
  unfold closeLabel at h
  split at h
  · rename_i ascii
    exact ⟨by simpa using List.all_eq_true.1 ascii c h, allowed c h⟩
  · rcases List.mem_append.1 h with h | h
    · have mark : ∀ c ∈ codedMark, c.toNat < 0x80 ∧ isForbidden c = false := by decide
      exact mark c h
    · obtain ⟨hc, ascii⟩ | rfl | digit := Punycode.mem_encode h
      · exact ⟨ascii, allowed c hc⟩
      · exact ⟨by decide, by decide⟩
      · exact .of_digit digit

theorem toAscii_eq_some (h : toAscii cs = some name) : ∃ mapped, mapAll cs = some mapped ∧
    (∀ c ∈ normalize mapped, isForbidden c = false) ∧
      name = joinLabels ((labelsOf (normalize mapped)).map closeLabel) := by
  unfold toAscii at h
  obtain ⟨mapped, hm, h⟩ := Option.bind_eq_some_iff.1 h
  refine ⟨mapped, hm, ?_⟩
  dsimp only at h
  split at h
  · cases h
  · rename_i allowed
    refine ⟨by simpa using allowed, ?_⟩
    obtain ⟨opened, -, h⟩ := Option.bind_eq_some_iff.1 h
    split at h
    · cases h
    · split at h
      · cases h
      · exact (Option.some.inj h).symm

theorem mem_toAscii (h : toAscii cs = some name) (hc : c ∈ name) : IsNameChar c := by
  obtain ⟨mapped, -, allowed, rfl⟩ := toAscii_eq_some h
  obtain rfl | ⟨part, hp, hc⟩ := mem_joinLabels hc
  · exact ⟨by decide, by decide⟩
  · obtain ⟨label, hl, rfl⟩ := List.mem_map.1 hp
    exact mem_closeLabel (fun c hc => allowed c (mem_of_mem_labelsOf hl hc)) hc

/-! ### Plain names -/

/-- A name in lower case without coded labels: its ASCII form does not depend on the tables. -/
def isPlain (name : List Char) : Bool :=
  name.all (fun c => c.toNat < 0x80 && c.toLower == c) && (labelsOf name).all fun label => !codedMark.isPrefixOf label

theorem mapAll_of_ascii (ascii : ∀ c ∈ cs, c.toNat < 0x80) : mapAll cs = some (cs.map Char.toLower) := by
  induction cs with
  | nil => rfl
  | cons c cs ih =>
    have first : mapChar c = some [c.toLower] := by rw [mapChar, if_pos (ascii c List.mem_cons_self)]
    simp [mapAll, first, ih fun d hd => ascii d (List.mem_cons_of_mem _ hd)]

theorem mapAll_of_lower (h : ∀ c ∈ name, c.toNat < 0x80 ∧ c.toLower = c) : mapAll name = some name := by
  have same : name.map Char.toLower = name.map id := List.map_congr_left fun c hc => (h c hc).2
  rw [mapAll_of_ascii fun c hc => (h c hc).1, same, List.map_id]

theorem isRightward_direction (h : c.toNat < 0x80) : isRightward (direction c) = false := by
  rw [direction, if_pos h]
  split
  · rfl
  · split <;> rfl

theorem mapM_openLabel (h : ∀ label ∈ parts, codedMark.isPrefixOf label = false) :
    parts.mapM openLabel = some parts := by
  induction parts with
  | nil => rfl
  | cons label parts ih =>
    have first : openLabel label = some label := if_neg (by simp [h label List.mem_cons_self])
    simp [List.mapM_cons, first, ih fun l hl => h l (List.mem_cons_of_mem _ hl)]

theorem toAscii_of_plain (plain : isPlain name = true) (allowed : ∀ c ∈ name, isForbidden c = false) :
    toAscii name = some name := by
  simp only [isPlain, Bool.and_eq_true, List.all_eq_true, decide_eq_true_eq, beq_iff_eq, Bool.not_eq_true'] at plain
  obtain ⟨chars, uncoded⟩ := plain
  have mapped : mapAll name = some name := mapAll_of_lower chars
  have normal : normalize name = name := normalize_of_ascii fun c hc => (chars c hc).1
  have permitted : name.any isForbidden = false := by simpa using allowed
  have opened : (labelsOf name).mapM openLabel = some (labelsOf name) := mapM_openLabel uncoded
  have ascii : ∀ label ∈ labelsOf name, isAsciiLabel label = true := by
    intro label hl
    simp only [isAsciiLabel, List.all_eq_true, decide_eq_true_eq]
    exact fun c hc => (chars c (mem_of_mem_labelsOf hl hc)).1
  have proper : (labelsOf name).all isProperLabel = true := by
    rw [List.all_eq_true]
    intro label hl
    simp [isProperLabel, ascii label hl]
  have leftward : ((labelsOf name).any fun label => label.any fun c => isRightward (direction c)) = false := by
    simp only [List.any_eq_false, Bool.not_eq_true]
    intro label hl c hc
    exact isRightward_direction (chars c (mem_of_mem_labelsOf hl hc)).1
  have closed : (labelsOf name).map closeLabel = labelsOf name := by
    have same : ∀ label ∈ labelsOf name, closeLabel label = id label := fun label hl => if_pos (ascii label hl)
    rw [List.map_congr_left same, List.map_id]
  simp only [toAscii, mapped, normal, permitted, opened, proper, leftward, closed, joinLabels_labelsOf, bind,
    Option.bind_some]
  rfl

end Idna

end IdentityClient
