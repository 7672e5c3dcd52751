import IdentityClient.Proofs.Net.Idna.Normal
import IdentityClient.Proofs.Net.Idna.Punycode

/-!
# Names in ASCII are read as themselves

What `Idna.toAscii` gives for a name is its own ASCII form, unless a coded part of it is longer than those that are read
(`Idna.toAscii_of_toAscii`): mapping leaves its characters, every coded label stands for a label that mapping and normal
form leave, and the same labels are then checked.
-/

namespace IdentityClient.Idna

variable {c : Char} {cs name label : List Char} {labels opened : List (List Char)}

/-- Whether all coded parts of a name are short enough to be read. -/
def codesFit (name : List Char) : Bool :=
  (labelsOf name).all fun label => !codedMark.isPrefixOf label || decide ((label.drop 4).length ≤ maxCoded)

/-! ### How a name becomes ASCII -/

/-- What the labels of a name, coded ones opened, have to pass. -/
def passes (opened : List (List Char)) : Bool :=
  opened.all isProperLabel &&
    (!(opened.any fun label => label.any fun c => isRightward (direction c)) || opened.all keepsDirection)

theorem toAscii_eq_bind (cs : List Char) : toAscii cs = (mapAll cs).bind fun mapped =>
    if (normalize mapped).any isForbidden then none
    else ((labelsOf (normalize mapped)).mapM openLabel).bind fun opened =>
      if passes opened then some (joinLabels ((labelsOf (normalize mapped)).map closeLabel)) else none := by
  rw [toAscii]
  refine Option.bind_congr fun mapped _ => ?_
  dsimp only
  cases (normalize mapped).any isForbidden with
  | true => rfl
  | false =>
    simp only [Bool.false_eq_true, if_false]
    refine Option.bind_congr fun opened _ => ?_
    rw [passes]
    cases opened.all isProperLabel with
    | false => rfl
    | true =>
      cases opened.any fun label => label.any fun c => isRightward (direction c) with
      | false => rfl
      | true => cases opened.all keepsDirection <;> rfl

/-- A name becomes ASCII when its normal form has no forbidden characters, and its labels can be opened and pass. -/
theorem toAscii_eq_some_iff : toAscii cs = some name ↔ ∃ mapped opened, mapAll cs = some mapped ∧
    (∀ c ∈ normalize mapped, isForbidden c = false) ∧ (labelsOf (normalize mapped)).mapM openLabel = some opened ∧
      passes opened = true ∧ joinLabels ((labelsOf (normalize mapped)).map closeLabel) = name := by
  rw [toAscii_eq_bind, Option.bind_eq_some_iff]
  refine exists_congr fun mapped => ?_
  rw [exists_and_left]
  refine and_congr_right fun _ => ?_
  cases forbidden : (normalize mapped).any isForbidden with
  | true =>
    obtain ⟨c, hc, bad⟩ := List.any_eq_true.1 forbidden
    refine iff_of_false (by simp) ?_
    rintro ⟨_, allowed, -⟩
    rw [allowed c hc] at bad
    cases bad
  | false =>
    have allowed : ∀ c ∈ normalize mapped, isForbidden c = false := by simpa using forbidden
    simp only [Bool.false_eq_true, if_false, Option.bind_eq_some_iff]
    refine exists_congr fun opened => ?_
    rw [and_iff_right (a := ∀ c ∈ normalize mapped, isForbidden c = false) allowed]
    cases passes opened <;> simp

/-! ### Coded labels opened again -/

theorem mem_of_mapM (h : labels.mapM openLabel = some opened) (hl : label ∈ labels) :
    ∃ part ∈ opened, openLabel label = some part := by
  induction labels generalizing opened with
  | nil => cases hl
  | cons first labels ih =>
    rw [List.mapM_cons] at h
    obtain ⟨part, hp, h⟩ := Option.bind_eq_some_iff.1 h
    obtain ⟨parts, hps, h⟩ := Option.bind_eq_some_iff.1 h
    cases h
    rcases List.mem_cons.1 hl with rfl | hl
    · exact ⟨part, List.mem_cons_self, hp⟩
    · obtain ⟨part', mem, same⟩ := ih hps hl
      exact ⟨part', List.mem_cons_of_mem _ mem, same⟩

theorem mapM_closeLabel (h : ∀ label ∈ labels, openLabel (closeLabel label) = openLabel label) :
    (labels.map closeLabel).mapM openLabel = labels.mapM openLabel := by
  induction labels with
  | nil => rfl
  | cons label labels ih =>
    rw [List.map_cons, List.mapM_cons, List.mapM_cons, h label List.mem_cons_self,
      ih fun l hl => h l (List.mem_cons_of_mem _ hl)]

theorem codedMark_isPrefixOf (cs : List Char) : codedMark.isPrefixOf (codedMark ++ cs) = true :=
  List.isPrefixOf_iff_prefix.2 (List.prefix_append _ _)

theorem isAsciiLabel_coded (h : ∀ c ∈ label, isForbidden c = false) : isAsciiLabel (closeLabel label) = true := by
  rw [isAsciiLabel, List.all_eq_true]
  exact fun c hc => decide_eq_true (mem_closeLabel h hc).1

/-- A label outside ASCII that nothing changes is opened from its code. -/
theorem decodeLabel_code (wide : isAsciiLabel label = false) (settled : mapAll label = some label)
    (normal : normalize label = label) (allowed : ∀ c ∈ label, isForbidden c = false) (dot : '.' ∉ label)
    (short : label.length ≤ maxLabel) (fits : (Punycode.encode label).length ≤ maxCoded) :
    decodeLabel (codedMark ++ Punycode.encode label) = some label := by
  obtain ⟨c, hc, high⟩ : ∃ c ∈ label, ¬ c.toNat < 0x80 := by simpa [isAsciiLabel] using wide
  have coded : (codedMark ++ Punycode.encode label).drop 4 = Punycode.encode label := rfl
  have ascii := isAsciiLabel_coded allowed
  rw [closeLabel, if_neg (by simp [wide])] at ascii
  have code := Punycode.decode_encode short
  have filled : Punycode.encode label ≠ [] := by
    intro none
    rw [none] at code
    obtain rfl : [] = label := Option.some.inj code
    cases hc
  have last : (codedMark ++ Punycode.encode label).getLast? ≠ some '-' := by
    rw [List.getLast?_append, List.getLast?_eq_some_getLast filled, Option.some_or, ← List.getLast?_eq_some_getLast]
    exact Punycode.getLast?_encode short hc high
  have plain : (label.all fun c => !isForbidden c && c != '.') = true := by
    refine List.all_eq_true.2 fun c hc => ?_
    have other : c ≠ '.' := fun same => dot (same ▸ hc)
    simp [allowed c hc, other]
  have read : ¬ ((!isAsciiLabel (codedMark ++ Punycode.encode label)) = true ∨
      (codedMark ++ Punycode.encode label).getLast? = some '-' ∨ maxCoded < (Punycode.encode label).length) := by
    rintro (wide | ends | long)
    · rw [ascii] at wide
      cases wide
    · exact last ends
    · omega
  rw [decodeLabel, coded, if_neg read]
  simp only [code, settled, normal, plain, bind, Option.bind_some, and_self, if_true]
  rfl

/-! ### The ASCII form again -/

/-- Mapping leaves the characters of an ASCII form. -/
theorem stays_of_toAscii (h : toAscii cs = some name) : ∀ c ∈ name, Stays c := by
  obtain ⟨mapped, opened, hm, allowed, -, -, rfl⟩ := toAscii_eq_some_iff.1 h
  have settled : ∀ c ∈ normalize mapped, Stays c := Stays.normalize (stays_of_mapAll hm)
  intro c hc
  obtain rfl | ⟨part, hp, hc⟩ := mem_joinLabels hc
  · exact .of_ascii (.inl (by decide))
  · obtain ⟨label, hl, rfl⟩ := List.mem_map.1 hp
    have here : ∀ c ∈ label, Stays c := fun c hc => settled c (mem_of_mem_labelsOf hl hc)
    rw [closeLabel] at hc
    split at hc
    · exact here c hc
    · rcases List.mem_append.1 hc with hc | hc
      · have mark : ∀ c ∈ codedMark, c.toNat ≤ 0x40 ∨ (0x5B ≤ c.toNat ∧ c.toNat ≤ 0x7F) := by decide
        exact .of_ascii (mark c hc)
      · obtain ⟨hc, -⟩ | rfl | ⟨d, hd, rfl⟩ := Punycode.mem_encode hc
        · exact here c hc
        · exact .of_ascii (.inl (by decide))
        · have digits : ∀ d < 36, (Punycode.digitChar d).toNat ≤ 0x40 ∨
              (0x5B ≤ (Punycode.digitChar d).toNat ∧ (Punycode.digitChar d).toNat ≤ 0x7F) := by decide
          exact .of_ascii (digits d hd)

theorem dot_not_mem_closeLabel (dot : '.' ∉ label) : '.' ∉ closeLabel label := by
  rw [closeLabel]
  split
  · exact dot
  · intro h
    rcases List.mem_append.1 h with h | h
    · exact absurd h (by decide)
    · obtain ⟨h, -⟩ | h | ⟨d, hd, h⟩ := Punycode.mem_encode h
      · exact dot h
      · cases h
      · have digits : ∀ d < 36, '.' ≠ Punycode.digitChar d := by decide
        exact digits d hd h

/-- The labels of an ASCII form are the coded labels of the name. -/
theorem labelsOf_closed (cs : List Char) :
    labelsOf (joinLabels ((labelsOf cs).map closeLabel)) = (labelsOf cs).map closeLabel := by
  refine labelsOf_joinLabels (by simpa using labelsOf_ne_nil cs) fun part hp => ?_
  obtain ⟨label, hl, rfl⟩ := List.mem_map.1 hp
  exact dot_not_mem_closeLabel (dot_not_mem_label label hl)

theorem openLabel_wide {part : List Char} (wide : isAsciiLabel label = false) (opens : openLabel label = some part) :
    part = label := by
  rw [openLabel] at opens
  split at opens
  · rw [decodeLabel, if_pos (.inl (by simp [wide]))] at opens
    cases opens
  · exact (Option.some.inj opens).symm

/-- Coding a label of a normal form does not change what it is opened to. -/
theorem openLabel_closeLabel {part : List Char} (hl : label ∈ labelsOf (normalize cs)) (stays : ∀ c ∈ normalize cs, Stays c)
    (allowed : ∀ c ∈ normalize cs, isForbidden c = false) (opens : openLabel label = some part)
    (proper : isProperLabel part = true)
    (fits : codedMark.isPrefixOf (closeLabel label) = true → ((closeLabel label).drop 4).length ≤ maxCoded) :
    openLabel (closeLabel label) = openLabel label := by
  cases ascii : isAsciiLabel label with
  | true => rw [closeLabel, if_pos ascii]
  | false =>
    obtain rfl := openLabel_wide ascii opens
    have mem {c : Char} (hc : c ∈ part) : c ∈ normalize cs := mem_of_mem_labelsOf hl hc
    have short : part.length ≤ maxLabel := by
      unfold isProperLabel at proper
      rw [ascii, Bool.false_or, Bool.and_eq_true, decide_eq_true_eq] at proper
      exact proper.2
    rw [closeLabel, if_neg (by simp [ascii])] at fits ⊢
    rw [opens, openLabel, if_pos (codedMark_isPrefixOf _)]
    exact decodeLabel_code ascii (mapAll_of_stays fun c hc => stays c (mem hc)) (normalize_label hl)
      (fun c hc => allowed c (mem hc)) (dot_not_mem_label part hl) short (fits (codedMark_isPrefixOf _))

theorem fits_of_codesFit (fit : codesFit name = true) (hl : label ∈ labelsOf name)
    (coded : codedMark.isPrefixOf label = true) : (label.drop 4).length ≤ maxCoded := by
  have here := List.all_eq_true.1 fit label hl
  rwa [coded, Bool.not_true, Bool.false_or, decide_eq_true_eq] at here

theorem codesFit_of_not_mem (h : 'x' ∉ name) : codesFit name = true := by
  refine List.all_eq_true.2 fun label hl => ?_
  cases coded : codedMark.isPrefixOf label with
  | true => exact absurd (mem_of_mem_labelsOf hl ((List.isPrefixOf_iff_prefix.1 coded).subset List.mem_cons_self)) h
  | false => rfl

theorem openLabel_of_long (coded : codedMark.isPrefixOf label = true) (long : maxCoded < (label.drop 4).length) :
    openLabel label = none := by
  rw [openLabel, if_pos coded, decodeLabel, if_pos (.inr (.inr long))]

/-- The ASCII form of a name is its own ASCII form, unless a coded part is too long to be read; then it is no name. -/
theorem toAscii_of_toAscii (h : toAscii cs = some name) : toAscii name = if codesFit name then some name else none := by
  have settled := mapAll_of_stays (stays_of_toAscii h)
  have normal : normalize name = name := normalize_of_ascii fun c hc => (mem_toAscii h hc).1
  obtain ⟨mapped, opened, hm, allowed, opens, passed, closed⟩ := toAscii_eq_some_iff.1 h
  have labels : labelsOf name = (labelsOf (normalize mapped)).map closeLabel := by rw [← closed, labelsOf_closed]
  have ascii : ∀ label ∈ labelsOf name, closeLabel label = id label := by
    intro label hl
    refine if_pos (List.all_eq_true.2 fun c hc => decide_eq_true ?_)
    exact (mem_toAscii h (mem_of_mem_labelsOf hl hc)).1
  cases fit : codesFit name with
  | true =>
    have proper : ∀ part ∈ opened, isProperLabel part = true := by
      rw [passes, Bool.and_eq_true] at passed
      exact List.all_eq_true.1 passed.1
    have reopens : (labelsOf name).mapM openLabel = some opened := by
      rw [labels, mapM_closeLabel, opens]
      intro label hl
      obtain ⟨part, hp, opens⟩ := mem_of_mapM opens hl
      refine openLabel_closeLabel hl (Stays.normalize (stays_of_mapAll hm)) allowed opens (proper part hp) ?_
      exact fits_of_codesFit fit (labels ▸ List.mem_map_of_mem hl)
    have again : joinLabels ((labelsOf name).map closeLabel) = name := by
      rw [List.map_congr_left ascii, List.map_id, joinLabels_labelsOf]
    rw [if_pos rfl]
    exact toAscii_eq_some_iff.2 ⟨name, opened, settled, fun c hc => (mem_toAscii h (normal ▸ hc)).2,
      by rw [normal, reopens], passed, by rw [normal, again]⟩
  | false =>
    rw [if_neg (by simp)]
    refine Option.eq_none_iff_forall_not_mem.2 fun other again => ?_
    obtain ⟨mapped', opened', hm', -, opens', -, -⟩ := toAscii_eq_some_iff.1 again
    obtain rfl : name = mapped' := Option.some.inj (settled.symm.trans hm')
    obtain ⟨label, hl, long⟩ := List.all_eq_false.1 fit
    rw [normal] at opens'
    obtain ⟨part, -, opens⟩ := mem_of_mapM opens' hl
    simp only [Bool.or_eq_true, Bool.not_eq_true', decide_eq_true_eq, not_or, Bool.not_eq_false, Nat.not_le] at long
    rw [openLabel_of_long long.1 long.2] at opens
    cases opens

end IdentityClient.Idna
