import IdentityClient.Net.Ipv6

/-!
# Letter case

Lower case changes the 26 capital letters of ASCII and nothing else (`forall_toLower`), so that reading an IPv6 address does
not depend on the case of its digits (`Ipv6.parse?_toLower`).
-/

namespace IdentityClient

variable {c d mark : Char} {cs ds : List Char}

/-- What holds of a character and itself, and of every capital letter and its small one, holds of a character and its lower
case. -/
theorem forall_toLower {P : Char → Char → Prop} (same : ∀ c, P c c)
    (capital : ∀ n < 26, P (Char.ofNat (0x41 + n)) (Char.ofNat (0x61 + n))) (c : Char) : P c c.toLower := by
  by_cases upper : 0x41 ≤ c.toNat ∧ c.toNat ≤ 0x5A
  · have all : ∀ n < 26, (Char.ofNat (0x41 + n)).toLower = Char.ofNat (0x61 + n) := by decide
    have value : Char.ofNat (0x41 + (c.toNat - 0x41)) = c := by
      rw [Nat.add_sub_cancel' upper.1, Char.ofNat_toNat]
    have here := capital (c.toNat - 0x41) (by omega)
    rwa [← all _ (by omega), value] at here
  · have unchanged : c.toLower = c := by
      refine dif_neg fun bounds => upper ?_
      simpa [UInt32.le_iff_toNat_le] using bounds
    rw [unchanged]
    exact same c

theorem isAlpha_toLower (c : Char) : c.toLower.isAlpha = c.isAlpha :=
  forall_toLower (P := fun c d => d.isAlpha = c.isAlpha) (fun _ => rfl) (by decide) c

theorem isDigit_toLower (c : Char) : c.toLower.isDigit = c.isDigit :=
  forall_toLower (P := fun c d => d.isDigit = c.isDigit) (fun _ => rfl) (by decide) c

theorem toLower_eq_self_of_isDigit (h : c.isDigit = true) : c.toLower = c :=
  forall_toLower (P := fun c d => c.isDigit = true → d = c) (fun _ _ => rfl) (by decide) c h

theorem value?_toLower (c : Char) : Hex.value? c.toLower = Hex.value? c :=
  forall_toLower (P := fun c d => Hex.value? d = Hex.value? c) (fun _ => rfl) (by decide) c

theorem toLower_eq_self (h : c.isAlpha = false) : c.toLower = c :=
  forall_toLower (P := fun c d => c.isAlpha = false → d = c) (fun _ _ => rfl) (by decide) c h

/-- What is no letter has no other case. -/
theorem eq_of_toLower_eq (plain : mark.isAlpha = false) (h : c.toLower = mark) : c = mark := by
  have same := isAlpha_toLower c
  rw [h, plain] at same
  rw [← h, toLower_eq_self same.symm]

theorem toLower_eq_iff (plain : mark.isAlpha = false) : c.toLower = mark ↔ c = mark := by
  refine ⟨eq_of_toLower_eq plain, ?_⟩
  rintro rfl
  exact toLower_eq_self plain

theorem map_toLower_eq_self (h : ∀ c ∈ cs, c.toLower = c) : cs.map Char.toLower = cs :=
  (List.map_congr_left h).trans (List.map_id cs)

theorem exists_same_letter (same : cs.map Char.toLower = ds.map Char.toLower) (hc : c ∈ cs) :
    ∃ d ∈ ds, d.toLower = c.toLower := List.mem_map.1 (same ▸ List.mem_map_of_mem hc)

/-- Texts of the same letters, but for their case. -/
theorem eq_of_map_toLower (plain : ∀ c ∈ ds, c.isAlpha = false) (h : cs.map Char.toLower = ds) : cs = ds := by
  subst h
  refine (List.map_id cs).symm.trans (List.map_congr_left fun c hc => ?_)
  have same := plain c.toLower (List.mem_map_of_mem hc)
  rw [isAlpha_toLower] at same
  exact (toLower_eq_self same).symm

/-! ### Addresses -/

namespace Ipv4

theorem valueIn_toLower (base : Nat) (cs : List Char) : valueIn base (cs.map Char.toLower) = valueIn base cs := by
  rw [valueIn, valueIn, List.foldl_map]
  simp only [value?_toLower]

theorem strictPart?_toLower (cs : List Char) : strictPart? (cs.map Char.toLower) = strictPart? cs := by
  by_cases digits : cs.all Char.isDigit = true
  · rw [map_toLower_eq_self fun c hc => toLower_eq_self_of_isDigit (List.all_eq_true.1 digits c hc)]
  · have digits' : (cs.map Char.toLower).all Char.isDigit = false := by
      rw [List.all_map]
      simpa [Function.comp_def, isDigit_toLower] using digits
    simp only [Bool.not_eq_true] at digits
    simp [strictPart?, digits, digits']

theorem cutDots_toLower (cs : List Char) : cutDots (cs.map Char.toLower) = (cutDots cs).map (List.map Char.toLower) := by
  induction cs with
  | nil => rfl
  | cons c cs ih =>
    simp only [List.map_cons, cutDots, toLower_eq_iff (show '.'.isAlpha = false from rfl), ih]
    split
    · rfl
    · cases cutDots cs <;> rfl

theorem parseStrict?_toLower (cs : List Char) : parseStrict? (cs.map Char.toLower) = parseStrict? cs := by
  simp only [parseStrict?, cutDots_toLower]
  match cutDots cs with
  | [a, b, c, d] => simp only [List.map_cons, List.map_nil, strictPart?_toLower]
  | [] => rfl
  | [_] => rfl
  | [_, _] => rfl
  | [_, _, _] => rfl
  | _ :: _ :: _ :: _ :: _ :: _ => rfl

end Ipv4

namespace Ipv6

theorem cutColons_toLower (cs : List Char) :
    cutColons (cs.map Char.toLower) = (cutColons cs).map (List.map Char.toLower) := by
  induction cs with
  | nil => rfl
  | cons c cs ih =>
    simp only [List.map_cons, cutColons, toLower_eq_iff (show ':'.isAlpha = false from rfl), ih]
    split
    · rfl
    · cases cutColons cs <;> rfl

theorem group?_toLower (cs : List Char) : group? (cs.map Char.toLower) = group? cs := by
  have hex : (cs.map Char.toLower).all Ipv4.isHexDigit = cs.all Ipv4.isHexDigit := by
    rw [List.all_map]
    refine congrArg cs.all (funext fun c => ?_)
    rw [Function.comp_apply, Ipv4.isHexDigit, value?_toLower, Ipv4.isHexDigit]
  simp only [group?, hex, List.isEmpty_map, List.length_map, Ipv4.valueIn_toLower]

theorem groups?_cons_cons (part next : List Char) (parts : List (List Char)) : groups? (part :: next :: parts) =
    (group? part).bind fun g => (groups? (next :: parts)).bind fun rest => some (g :: rest) := by
  rw [groups?]
  · rfl
  · simp

theorem groups?_toLower (parts : List (List Char)) : groups? (parts.map (List.map Char.toLower)) = groups? parts := by
  induction parts with
  | nil => rfl
  | cons part parts ih =>
    cases parts with
    | nil => simp only [List.map_cons, List.map_nil, groups?, group?_toLower, Ipv4.parseStrict?_toLower]
    | cons next parts =>
      rw [List.map_cons] at ih ⊢
      rw [List.map_cons, groups?_cons_cons, groups?_cons_cons, group?_toLower, ih]

theorem groupsOf_toLower (cs : List Char) : groupsOf (cs.map Char.toLower) = groupsOf cs := by
  rw [groupsOf, groupsOf, List.isEmpty_map, cutColons_toLower, groups?_toLower]

theorem splitGap_toLower (cs : List Char) : splitGap (cs.map Char.toLower) =
    (splitGap cs).map fun s => (s.1.map Char.toLower, s.2.map Char.toLower) := by
  induction cs using splitGap.induct with
  | case1 rest => rfl
  | case2 c rest apart ih =>
    have apart' : ∀ rest', c.toLower = ':' → rest.map Char.toLower = ':' :: rest' → False := by
      intro rest' first second
      obtain ⟨d, rest'', rfl, colon, -⟩ := List.map_eq_cons_iff.1 second
      exact apart rest'' (eq_of_toLower_eq rfl first) (by rw [eq_of_toLower_eq rfl colon])
    rw [List.map_cons, splitGap, splitGap, ih, Option.map_map, Option.map_map]
    · rfl
    · exact apart
    · exact apart'
  | case3 => rfl

/-- The digits of an address may be of either case. -/
theorem parse?_toLower (cs : List Char) : parse? (cs.map Char.toLower) = parse? cs := by
  have dots (cs : List Char) : hasDot (cs.map Char.toLower) = hasDot cs := by
    rw [hasDot, hasDot, Bool.eq_iff_iff, List.contains_iff_mem, List.contains_iff_mem, List.mem_map]
    constructor
    · rintro ⟨c, hc, dot⟩
      exact eq_of_toLower_eq rfl dot ▸ hc
    · exact fun h => ⟨'.', h, rfl⟩
  rw [parse?, parse?, splitGap_toLower]
  cases splitGap cs with
  | none => simp only [Option.map_none, groupsOf_toLower]
  | some s => simp only [Option.map_some, groupsOf_toLower, dots]

end Ipv6

end IdentityClient
