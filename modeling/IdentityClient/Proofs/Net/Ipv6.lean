import IdentityClient.Net.Ipv6
import IdentityClient.Proofs.Net.Ipv4
import Mathlib.Data.List.TakeWhile

/-!
# Written IPv6 addresses read back

An address has two written forms: its groups without the longest run of zeros, and, where it embeds an IPv4 address, a
form that shows that one. Both read back as the address. What was left out is found between the first two colons in a
row, as groups in hexadecimal neither contain a colon nor are empty.
-/

namespace IdentityClient.Ipv6

variable {a : Ipv6} {g : UInt16} {gs : List UInt16} {c : Char} {cs ds : List Char}

/-- A group in hexadecimal. -/
def digits (g : UInt16) : List Char := Nat.toDigits 16 g.toNat

theorem digits_ne_nil : digits g ≠ [] := Nat.toDigits_ne_nil

theorem isHexDigit_of_mem (h : c ∈ digits g) : Ipv4.isHexDigit c = true := by
  obtain ⟨d, hd, rfl⟩ := Ipv4.mem_toDigits (by decide) h
  rw [Ipv4.isHexDigit, Hex.value?_digitChar hd]
  rfl

theorem not_mem_digits (hc : Ipv4.isHexDigit c = false) : c ∉ digits g := by
  intro h
  rw [isHexDigit_of_mem h] at hc
  cases hc

theorem group?_digits (g : UInt16) : group? (digits g) = some g := by
  have short : (digits g).length ≤ 4 :=
    (Nat.length_toDigits_le_iff (by decide) (by decide)).2 g.toNat_lt
  have hex : (digits g).all Ipv4.isHexDigit = true := List.all_eq_true.2 fun _ => isHexDigit_of_mem
  have value : Ipv4.valueIn 16 (digits g) = g.toNat := Ipv4.valueIn_toDigits (by decide) (by decide) _
  simp [group?, digits_ne_nil, short, hex, value]

/-! ### Groups between colons -/

theorem cutColons_eq (cs : List Char) : cutColons cs = cs.splitOn ':' := eq_splitOn rfl (fun _ _ => rfl) cs

/-- Groups with colons between them. -/
def written (gs : List UInt16) : List Char := [':'].intercalate (gs.map digits)

@[simp] theorem toList_groupText (g : UInt16) : (groupText g).toList = digits g := String.toList_ofList

theorem toList_groupsText (gs : List UInt16) : (groupsText gs).toList = written gs := by
  simp [groupsText, written, String.toList_intercalate, Function.comp_def]

@[simp] theorem written_singleton (g : UInt16) : written [g] = digits g := List.intercalate_singleton

@[simp] theorem written_cons_cons (g g' : UInt16) (gs : List UInt16) :
    written (g :: g' :: gs) = digits g ++ ':' :: written (g' :: gs) := by
  simp [written, List.intercalate_cons_cons]

theorem head?_written_cons (g : UInt16) (gs : List UInt16) (cs : List Char) :
    (written (g :: gs) ++ cs).head? = (digits g).head? := by
  cases gs with
  | nil => rw [written_singleton]; exact Ipv4.head?_append_toDigits ..
  | cons g' gs => rw [written_cons_cons, List.append_assoc]; exact Ipv4.head?_append_toDigits ..

theorem head?_written_ne_colon (g : UInt16) (gs : List UInt16) (cs : List Char) :
    (written (g :: gs) ++ cs).head? ≠ some ':' := by
  rw [head?_written_cons]
  intro h
  exact not_mem_digits (by decide) (List.mem_of_mem_head? h)

theorem mem_written (h : c ∈ written gs) : (∃ d < 16, c = Nat.digitChar d) ∨ c = ':' := by
  induction gs with
  | nil => cases h
  | cons g gs ih =>
    cases gs with
    | nil =>
      rw [written_singleton] at h
      exact .inl (Ipv4.mem_toDigits (by decide) h)
    | cons g' gs =>
      rw [written_cons_cons, List.mem_append, List.mem_cons] at h
      rcases h with h | rfl | h
      · exact .inl (Ipv4.mem_toDigits (by decide) h)
      · exact .inr rfl
      · exact ih h

theorem groups?_digits (gs : List UInt16) : groups? (gs.map digits) = some gs := by
  induction gs with
  | nil => rfl
  | cons g gs ih =>
    cases gs with
    | nil => simp [groups?, group?_digits]
    | cons g' gs =>
      simp only [List.map_cons] at ih ⊢
      simp [groups?, group?_digits, ih]

theorem groupsOf_written (gs : List UInt16) : groupsOf (written gs) = some gs := by
  cases gs with
  | nil => rfl
  | cons g gs =>
    have filled : (written (g :: gs)).isEmpty = false := by
      rw [List.isEmpty_eq_false_iff]
      intro h
      have first := head?_written_cons g gs []
      rw [h] at first
      exact digits_ne_nil (List.head?_eq_none_iff.1 first.symm)
    have cut : cutColons (written (g :: gs)) = (g :: gs).map digits := by
      rw [cutColons_eq]
      refine List.splitOn_intercalate ':' ?_ (by simp)
      intro part hp
      obtain ⟨g, -, rfl⟩ := List.mem_map.1 hp
      exact not_mem_digits (by decide)
    rw [groupsOf, if_neg (by simp [filled]), cut, groups?_digits]

/-! ### The gap -/

theorem splitGap_append (h : ':' ∉ cs) (ds : List Char) :
    splitGap (cs ++ ds) = (splitGap ds).map fun s => (cs ++ s.1, s.2) := by
  induction cs with
  | nil => simp
  | cons c cs ih =>
    obtain ⟨hc, hcs⟩ := not_or.1 (mt List.mem_cons.2 h)
    rw [List.cons_append, splitGap, ih hcs, Option.map_map]
    · rfl
    · rintro rest rfl
      exact absurd rfl hc

theorem splitGap_colon (h : ds.head? ≠ some ':') :
    splitGap (':' :: ds) = (splitGap ds).map fun s => (':' :: s.1, s.2) := by
  rw [splitGap]
  rintro rest - rfl
  exact h rfl

theorem splitGap_written (gs : List UInt16) : splitGap (written gs) = none := by
  induction gs with
  | nil => rfl
  | cons g gs ih =>
    have no_colon : ':' ∉ digits g := not_mem_digits (by decide)
    cases gs with
    | nil =>
      have none_left := splitGap_append no_colon []
      simpa [splitGap] using none_left
    | cons g' gs =>
      have first : (written (g' :: gs)).head? ≠ some ':' := by
        simpa using head?_written_ne_colon g' gs []
      rw [written_cons_cons, splitGap_append no_colon, splitGap_colon first, ih]
      rfl

theorem splitGap_written_append (gs : List UInt16) (rest : List Char) :
    splitGap (written gs ++ ':' :: ':' :: rest) = some (written gs, rest) := by
  induction gs with
  | nil => rfl
  | cons g gs ih =>
    have no_colon : ':' ∉ digits g := not_mem_digits (by decide)
    cases gs with
    | nil =>
      rw [written_singleton, splitGap_append no_colon]
      simp [splitGap]
    | cons g' gs =>
      rw [written_cons_cons, List.append_assoc, splitGap_append no_colon, List.cons_append,
        splitGap_colon (head?_written_ne_colon g' gs _), ih]
      rfl

theorem takeWhile_zeros (gs : List UInt16) : gs.takeWhile (· == 0) = List.replicate (zerosAt gs) 0 := by
  refine List.eq_replicate_iff.2 ⟨rfl, ?_⟩
  intro g hg
  simpa using List.mem_takeWhile_imp hg

/-- The longest run of zeros is one: it stands where it is said to, with the other groups around it. -/
theorem longestZeros_spec (k : Nat) (gs : List UInt16) : ∃ left right, (longestZeros k gs).1 = k + left.length ∧
    gs = left ++ (List.replicate (longestZeros k gs).2 0 ++ right) := by
  induction gs generalizing k with
  | nil => exact ⟨[], [], rfl, rfl⟩
  | cons g gs ih =>
    rw [longestZeros]
    split
    · refine ⟨[], (g :: gs).dropWhile (· == 0), rfl, ?_⟩
      rw [← takeWhile_zeros, List.nil_append, List.takeWhile_append_dropWhile]
    · obtain ⟨left, right, start, split_eq⟩ := ih (k + 1)
      refine ⟨g :: left, right, ?_, ?_⟩
      · rw [start, List.length_cons]
        omega
      · rw [List.cons_append, ← split_eq]

/-! ### Whole addresses -/

/-- Either all groups are written, or a run of zeros is left out. -/
theorem toList_renderGroups (a : Ipv6) : a.renderGroups.toList = written a.groups ∨ ∃ left right gap, 2 ≤ gap ∧
    a.groups = left ++ (List.replicate gap 0 ++ right) ∧
      a.renderGroups.toList = written left ++ ':' :: ':' :: written right := by
  rw [renderGroups]
  obtain ⟨left, right, start, groups_eq⟩ := longestZeros_spec 0 a.groups
  generalize longestZeros 0 a.groups = gap at start groups_eq
  split
  · exact .inl (toList_groupsText _)
  · rename_i long
    have before : a.groups.take gap.1 = left := by
      rw [groups_eq, start]
      simp
    have after : a.groups.drop (gap.1 + gap.2) = right := by
      rw [groups_eq, start, ← List.append_assoc]
      exact List.drop_left' (by simp)
    refine .inr ⟨left, right, gap.2, Nat.le_of_not_lt long, groups_eq, ?_⟩
    simp [before, after, toList_groupsText]

theorem mem_renderGroups (h : c ∈ a.renderGroups.toList) : (∃ d < 16, c = Nat.digitChar d) ∨ c = ':' := by
  obtain text | ⟨left, right, gap, -, -, text⟩ := a.toList_renderGroups
  · exact mem_written (text ▸ h)
  · simp only [text, List.mem_append, List.mem_cons] at h
    rcases h with h | h | h | h
    · exact mem_written h
    · exact .inr h
    · exact .inr h
    · exact mem_written h

theorem mem_render (h : c ∈ a.render.toList) : (∃ d < 16, c = Nat.digitChar d) ∨ c = ':' ∨ c = '.' := by
  rw [render] at h
  split at h
  · rename_i v4 _
    rw [String.toList_append, List.mem_append] at h
    rcases h with h | h
    · have lead : ∀ c ∈ "::ffff:".toList, (∃ d < 16, c = Nat.digitChar d) ∨ c = ':' ∨ c = '.' := by decide
      exact lead c h
    · rcases Ipv4.mem_render h with ⟨d, hd, rfl⟩ | dot
      · exact .inl ⟨d, by omega, rfl⟩
      · exact .inr (.inr dot)
  · exact (mem_renderGroups h).imp_right .inl

theorem forall_mem_render {p : Char → Prop} (digit : ∀ d < 16, p (Nat.digitChar d)) (colon : p ':') (dot : p '.') :
    ∀ c ∈ a.render.toList, p c := by
  intro c hc
  rcases mem_render hc with ⟨d, hd, rfl⟩ | rfl | rfl
  · exact digit d hd
  · exact colon
  · exact dot

/-- A colon tells an address of this kind from any other host. -/
theorem colon_mem_render (a : Ipv6) : ':' ∈ a.render.toList := by
  rw [render]
  split
  · simp
  · obtain text | ⟨left, right, gap, -, -, text⟩ := a.toList_renderGroups
    · obtain ⟨groups, length_eq⟩ := a
      rw [text]
      match groups with
      | g :: g' :: gs => simp
      | [] | [_] => cases length_eq
    · simp [text]

theorem count_colon_written (gs : List UInt16) : (written gs).count ':' ≤ gs.length := by
  have none (g : UInt16) : (digits g).count ':' = 0 := List.count_eq_zero_of_not_mem (not_mem_digits (by decide))
  induction gs with
  | nil => exact Nat.le_refl 0
  | cons g gs ih =>
    cases gs with
    | nil => simp [none]
    | cons g' gs =>
      rw [written_cons_cons, List.count_append, List.count_cons_self, none, List.length_cons]
      omega

theorem count_colon_render (a : Ipv6) : a.render.toList.count ':' ≤ 8 := by
  rw [render]
  split
  · rename_i v4 _
    have none : v4.render.toList.count ':' = 0 := by
      refine List.count_eq_zero_of_not_mem fun hc => ?_
      rcases Ipv4.mem_render hc with h | h
      · exact absurd h (by decide)
      · exact absurd h (by decide)
    simp [none]
  · obtain text | ⟨left, right, gap, long, groups_eq, text⟩ := a.toList_renderGroups
    · rw [text, ← a.length_eq]
      exact count_colon_written _
    · have before := count_colon_written left
      have after := count_colon_written right
      have length_eq : left.length + (gap + right.length) = 8 := by simpa [groups_eq] using a.length_eq
      rw [text, List.count_append, List.count_cons_self, List.count_cons_self]
      omega

theorem ofGroups?_groups (a : Ipv6) : ofGroups? a.groups = some a := dif_pos a.length_eq

theorem parse?_renderGroups (a : Ipv6) : parse? a.renderGroups.toList = some a := by
  obtain text | ⟨left, right, gap, long, groups_eq, text⟩ := a.toList_renderGroups
  · rw [text, parse?, splitGap_written]
    simp [groupsOf_written, ofGroups?_groups]
  · have length_eq : left.length + (gap + right.length) = 8 := by simpa [groups_eq] using a.length_eq
    have no_dot : hasDot (written left) = false := by
      rw [hasDot, List.contains_eq_mem, decide_eq_false_iff_not]
      intro dot
      rcases mem_written dot with h | h
      · exact absurd h (by decide)
      · exact absurd h (by decide)
    have missing : 8 - left.length - right.length = gap := by omega
    have room : ¬ 8 ≤ left.length + right.length := by omega
    have whole : ofGroups? (left ++ (List.replicate gap 0 ++ right)) = some a := by
      rw [← groups_eq, ofGroups?_groups]
    rw [text, parse?, splitGap_written_append]
    simp [no_dot, groupsOf_written, room, missing, whole]

theorem group?_eq_none_of_dot (h : '.' ∈ cs) : group? cs = none := by
  have other : cs.all Ipv4.isHexDigit = false := List.all_eq_false.2 ⟨'.', h, by decide⟩
  simp [group?, other]

/-- Two groups that an IPv4 address stands for. -/
theorem groupsOf_mapped (v4 : Ipv4) :
    groupsOf ("ffff:".toList ++ v4.render.toList) = some (0xffff :: ofIpv4 v4) := by
  have no_colon : ':' ∉ v4.render.toList := by
    intro h
    rcases Ipv4.mem_render h with h | h
    · exact absurd h (by decide)
    · exact absurd h (by decide)
  have dot : '.' ∈ v4.render.toList := by simp [Ipv4.toList_render]
  have cut : cutColons ("ffff:".toList ++ v4.render.toList) = ["ffff".toList, v4.render.toList] := by
    have lead : "ffff:".toList ++ v4.render.toList = "ffff".toList ++ ':' :: v4.render.toList := by simp
    rw [cutColons_eq, lead, List.splitOn_append_cons_self_of_not_mem (by decide),
      List.splitOn_eq_singleton no_colon]
  have first : group? ['f', 'f', 'f', 'f'] = some 0xffff := by decide
  have filled : ("ffff:".toList ++ v4.render.toList).isEmpty = false := by simp
  rw [groupsOf, if_neg (by rw [filled]; exact Bool.false_ne_true), cut]
  simp [groups?, first, group?_eq_none_of_dot dot, Ipv4.parseStrict?_render]

theorem ofIpv4_pair (high low : UInt16) :
    ofIpv4 ⟨UInt32.ofNat (high.toNat * 65536 + low.toNat)⟩ = [high, low] := by
  have high_lt : high.toNat < 65536 := high.toNat_lt
  have low_lt : low.toNat < 65536 := low.toNat_lt
  have bits : (UInt32.ofNat (high.toNat * 65536 + low.toNat)).toNat = high.toNat * 65536 + low.toNat :=
    UInt32.toNat_ofNat_of_lt' (by simp [UInt32.size]; omega)
  have upper : (high.toNat * 65536 + low.toNat) / 65536 = high.toNat := by omega
  have lower : (high.toNat * 65536 + low.toNat) % 65536 = low.toNat := by omega
  rw [ofIpv4, bits, upper, lower, UInt16.ofNat_toNat, UInt16.ofNat_toNat]

theorem parse?_mapped {v4 : Ipv4} (h : a.mapped? = some v4) :
    parse? ("::ffff:" ++ v4.render).toList = some a := by
  obtain ⟨groups, length_eq⟩ := a
  unfold mapped? at h
  split at h
  · rename_i high low groups_eq
    cases groups_eq
    have pair : ofIpv4 v4 = [high, low] := by
      rw [← Option.some.inj h, ofIpv4_pair]
    have gap : splitGap ("::ffff:" ++ v4.render).toList = some ([], "ffff:".toList ++ v4.render.toList) := by
      rw [String.toList_append]
      rfl
    have empty : groupsOf [] = some [] := rfl
    have no_dot : hasDot [] = false := rfl
    rw [parse?, gap]
    simp only [no_dot, empty, groupsOf_mapped, pair]
    rfl
  · cases h

theorem parse?_render (a : Ipv6) : parse? a.render.toList = some a := by
  rw [render]
  cases h : a.mapped? with
  | some v4 => exact parse?_mapped h
  | none => exact parse?_renderGroups a

end IdentityClient.Ipv6
