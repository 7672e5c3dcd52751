import IdentityClient.Proofs.Net.Idna.Parts
import IdentityClient.Proofs.Net.Name

/-!
# The composed normal form is settled

Two sequences are alike when sorting the marks leads from them to the same (`Idna.Alike`): marks of different classes may
be swapped. What is composed is alike to what it is composed from, once it is decomposed (`Idna.alike_composeAll`), so that
a composed normal form is its own normal form (`Idna.recompose_recompose`), and so is each of its labels
(`Idna.normalize_label`).
-/

namespace IdentityClient.Idna

variable {a b c d start : Char} {cs ds xs ys zs marks out : List Char} {k last : Nat}

/-! ### Sorting marks -/

/-- Puts a character behind a sequence whose last character comes first, a mark at its place. -/
def place (out : List Char) (c : Char) : List Char :=
  if combiningClass c = 0 then c :: out else insertMark (combiningClass c) c out

theorem orderMarks_eq (cs : List Char) : orderMarks cs = cs.foldl place [] := rfl

theorem mem_insertMark : d ∈ insertMark k c out ↔ d = c ∨ d ∈ out := by
  induction out with
  | nil => simp [insertMark]
  | cons e out ih =>
    rw [insertMark]
    split
    · simp only [List.mem_cons, ih]
      exact or_left_comm
    · exact List.mem_cons

theorem mem_foldl_place : d ∈ cs.foldl place out ↔ d ∈ cs ∨ d ∈ out := by
  induction cs generalizing out with
  | nil => simp
  | cons c cs ih =>
    have first : d ∈ place out c ↔ d = c ∨ d ∈ out := by
      rw [place]
      split
      · exact List.mem_cons
      · exact mem_insertMark
    rw [List.foldl_cons, ih, first, List.mem_cons]
    exact or_left_comm.trans or_assoc.symm

theorem mem_orderMarks : d ∈ orderMarks cs ↔ d ∈ cs := by
  rw [orderMarks_eq, mem_foldl_place]
  simp

/-- The class of the last character, which comes first here. -/
def lastClass : List Char → Nat
  | [] => 0
  | c :: _ => combiningClass c

/-- The classes of the marks do not fall; the last character comes first. -/
def Sorted : List Char → Prop
  | [] => True
  | c :: out => (combiningClass c = 0 ∨ lastClass out ≤ combiningClass c) ∧ Sorted out

/-- The classes of the marks do not fall, `k` being the class before the first character. -/
def Rises : Nat → List Char → Prop
  | _, [] => True
  | k, c :: cs => (combiningClass c = 0 ∨ k ≤ combiningClass c) ∧ Rises (combiningClass c) cs

theorem Rises.of_le {j : Nat} (h : Rises k cs) (le : j ≤ k) : Rises j cs := by
  cases cs with
  | nil => trivial
  | cons c cs => exact ⟨h.1.imp_right (Nat.le_trans le), h.2⟩

theorem Sorted.rises (h : Sorted out) (rest : Rises (lastClass out) cs) : Rises 0 (out.reverse ++ cs) := by
  induction out generalizing cs with
  | nil => exact rest
  | cons c out ih =>
    rw [List.reverse_cons, List.append_assoc]
    exact ih h.2 ⟨h.1, rest⟩

theorem lastClass_insertMark (k : Nat) (c : Char) (out : List Char) :
    lastClass (insertMark k c out) = combiningClass c ∨ lastClass (insertMark k c out) = lastClass out := by
  cases out with
  | nil => exact .inl rfl
  | cons d out =>
    rw [insertMark]
    split
    · exact .inr rfl
    · exact .inl rfl

theorem Sorted.insertMark (h : Sorted out) : Sorted (insertMark (combiningClass c) c out) := by
  induction out with
  | nil => exact ⟨.inr (Nat.zero_le _), trivial⟩
  | cons d out ih =>
    rw [Idna.insertMark]
    split
    · rename_i lower
      refine ⟨.inr ?_, ih h.2⟩
      have := h.1
      have := lastClass_insertMark (combiningClass c) c out
      omega
    · rename_i higher
      exact ⟨.inr (Nat.not_lt.1 higher), h⟩

theorem Sorted.place (h : Sorted out) (c : Char) : Sorted (place out c) := by
  rw [Idna.place]
  split
  · rename_i starter
    exact ⟨.inl starter, h⟩
  · exact h.insertMark

theorem Sorted.foldl_place (h : Sorted out) : Sorted (cs.foldl Idna.place out) := by
  induction cs generalizing out with
  | nil => exact h
  | cons c cs ih => exact ih (h.place c)

theorem rises_orderMarks (cs : List Char) : Rises 0 (orderMarks cs).reverse := by
  have sorted : Sorted (orderMarks cs) := Sorted.foldl_place (show Sorted [] from trivial)
  have all := sorted.rises (show Rises _ [] from trivial)
  rwa [List.append_nil] at all

theorem foldl_place_of_rises (h : Rises (lastClass out) cs) : cs.foldl place out = cs.reverse ++ out := by
  induction cs generalizing out with
  | nil => rfl
  | cons c cs ih =>
    have first : place out c = c :: out := by
      rw [place]
      split
      · rfl
      · rename_i mark
        cases out with
        | nil => rfl
        | cons d out => exact if_neg (Nat.not_lt.2 (h.1.resolve_left mark))
    have rest : cs.foldl place (c :: out) = cs.reverse ++ c :: out := ih h.2
    rw [List.foldl_cons, first, rest, List.reverse_cons, List.append_assoc]
    rfl

/-- Sorting leaves sorted marks as they are. -/
theorem orderMarks_of_rises (h : Rises 0 cs) : orderMarks cs = cs.reverse := by
  have whole : cs.foldl place [] = cs.reverse ++ [] := foldl_place_of_rises h
  rwa [List.append_nil] at whole

/-! ### Sequences that sorting makes the same -/

def Alike (xs ys : List Char) : Prop := ∀ out, xs.foldl place out = ys.foldl place out

theorem Alike.refl (xs : List Char) : Alike xs xs := fun _ => rfl

theorem Alike.trans (h : Alike xs ys) (h' : Alike ys zs) : Alike xs zs := fun out => (h out).trans (h' out)

theorem Alike.append {xs' ys' : List Char} (h : Alike xs ys) (h' : Alike xs' ys') : Alike (xs ++ xs') (ys ++ ys') := by
  intro out
  rw [List.foldl_append, List.foldl_append, h, h']

theorem Alike.orderMarks_eq (h : Alike xs ys) : orderMarks xs = orderMarks ys := h []

theorem insertMark_comm {j : Nat} (lower : j < k) (hd : combiningClass d = k) (hc : combiningClass c = j) :
    insertMark j c (insertMark k d out) = insertMark k d (insertMark j c out) := by
  induction out with
  | nil => simp [insertMark, hd, hc, lower, Nat.not_lt.2 (Nat.le_of_lt lower)]
  | cons e out ih =>
    by_cases above : k < combiningClass e
    · have above' : j < combiningClass e := Nat.lt_trans lower above
      simp [insertMark, above, above', ih]
    · by_cases above' : j < combiningClass e
      · simp [insertMark, above, above', hd, lower]
      · simp [insertMark, above, above', hd, hc, lower, Nat.not_lt.2 (Nat.le_of_lt lower)]

/-- Marks of different classes may be swapped. -/
theorem alike_swap (lower : combiningClass c < combiningClass d) (mark : combiningClass c ≠ 0) :
    Alike [d, c] [c, d] := by
  intro out
  have mark' : combiningClass d ≠ 0 := by omega
  simp only [List.foldl_cons, List.foldl_nil, place, if_neg mark, if_neg mark']
  exact insertMark_comm lower rfl rfl

/-- A mark may be moved before marks of lower classes. -/
theorem alike_move (h : ∀ m ∈ marks, combiningClass m ≠ 0 ∧ combiningClass m < combiningClass c) :
    Alike (c :: marks) (marks ++ [c]) := by
  induction marks with
  | nil => exact .refl _
  | cons m marks ih =>
    obtain ⟨mark, lower⟩ := h m List.mem_cons_self
    have swap : Alike (c :: m :: marks) (m :: c :: marks) := (alike_swap lower mark).append (.refl marks)
    exact swap.trans ((Alike.refl [m]).append (ih fun n hn => h n (List.mem_cons_of_mem _ hn)))

/-! ### Composing -/

theorem flatMap_decompose_of_parts (h : ∀ c ∈ cs, decompose c = [c]) : cs.flatMap decompose = cs := by
  induction cs with
  | nil => rfl
  | cons c cs ih =>
    rw [List.flatMap_cons, h c List.mem_cons_self, ih fun d hd => h d (List.mem_cons_of_mem _ hd)]
    rfl

/-- The next character joins the start, is the next start, or waits as a mark. -/
theorem composeFrom_cons (start : Char) (marks : List Char) (last : Nat) (c : Char) (cs : List Char) :
    (∃ start', (marks = [] ∨ last < combiningClass c) ∧ compose? start c = some start' ∧
      composeFrom start marks last (c :: cs) = composeFrom start' marks last cs) ∨
    (combiningClass c = 0 ∧
      composeFrom start marks last (c :: cs) = start :: (marks.reverse ++ composeFrom c [] 0 cs)) ∨
    (combiningClass c ≠ 0 ∧
      composeFrom start marks last (c :: cs) = composeFrom start (c :: marks) (combiningClass c) cs) := by
  rw [composeFrom]
  split
  · rename_i start' joined
    split at joined
    · rename_i free
      exact .inl ⟨start', free.imp_left List.isEmpty_iff.1, joined, rfl⟩
    · cases joined
  · split
    · rename_i starter
      exact .inr (.inl ⟨starter, rfl⟩)
    · rename_i mark
      exact .inr (.inr ⟨mark, rfl⟩)

/-- Marks that wait behind a start, the latest first: parts of ascending classes, `last` being the highest. -/
structure Waiting (last : Nat) (marks : List Char) : Prop where
  mark : ∀ m ∈ marks, combiningClass m ≠ 0
  le : ∀ m ∈ marks, combiningClass m ≤ last
  part : ∀ m ∈ marks, decompose m = [m]
  none_yet : marks = [] → last = 0

namespace Waiting

theorem nil : Waiting 0 [] := ⟨List.forall_mem_nil _, List.forall_mem_nil _, List.forall_mem_nil _, fun _ => rfl⟩

theorem cons (h : Waiting last marks) (mark : combiningClass c ≠ 0) (le : last ≤ combiningClass c)
    (part : decompose c = [c]) : Waiting (combiningClass c) (c :: marks) where
  mark := List.forall_mem_cons.2 ⟨mark, h.mark⟩
  le := List.forall_mem_cons.2 ⟨Nat.le_refl _, fun m hm => (h.le m hm).trans le⟩
  part := List.forall_mem_cons.2 ⟨part, h.part⟩
  none_yet := fun none => by cases none

theorem flatMap_decompose (h : Waiting last marks) : marks.reverse.flatMap decompose = marks.reverse :=
  flatMap_decompose_of_parts fun m hm => h.part m (List.mem_reverse.1 hm)

theorem last_le (h : Waiting last marks) (free : marks = [] ∨ last < combiningClass c) : last ≤ combiningClass c := by
  rcases free with none | higher
  · rw [h.none_yet none]
    exact Nat.zero_le _
  · exact Nat.le_of_lt higher

/-- What joins the start comes from behind the marks, and may be moved there. -/
theorem alike_joined {start' : Char} (h : Waiting last marks) (free : marks = [] ∨ last < combiningClass c)
    (joined : compose? start c = some start') :
    Alike (decompose start' ++ marks.reverse) (decompose start ++ (marks.reverse ++ [c])) := by
  have above : ∀ m ∈ marks.reverse, combiningClass m ≠ 0 ∧ combiningClass m < combiningClass c := by
    intro m hm
    have hm := List.mem_reverse.1 hm
    rcases free with rfl | higher
    · cases hm
    · exact ⟨h.mark m hm, Nat.lt_of_le_of_lt (h.le m hm) higher⟩
  rw [decompose_compose joined, List.append_assoc]
  exact (Alike.refl _).append (alike_move above)

end Waiting

/-- What composing makes of a start, marks and what follows them is alike to these, once it is decomposed. -/
theorem alike_composeFrom (waiting : Waiting last marks) (rises : Rises last cs) (parts : ∀ c ∈ cs, decompose c = [c]) :
    Alike ((composeFrom start marks last cs).flatMap decompose) (decompose start ++ (marks.reverse ++ cs)) := by
  induction cs generalizing start marks last with
  | nil =>
    rw [composeFrom, List.flatMap_cons, waiting.flatMap_decompose, List.append_nil]
    exact .refl _
  | cons c cs ih =>
    obtain ⟨part, later⟩ := List.forall_mem_cons.1 parts
    rcases composeFrom_cons start marks last c cs with ⟨start', free, joined, next⟩ | ⟨starter, next⟩ | ⟨mark, next⟩
    · have rest : Alike ((composeFrom start' marks last cs).flatMap decompose) (decompose start' ++ (marks.reverse ++ cs)) :=
        ih waiting (rises.2.of_le (waiting.last_le free)) later
      have step := (waiting.alike_joined free joined).append (.refl cs)
      simp only [List.append_assoc, List.singleton_append] at step
      rw [next]
      exact rest.trans step
    · have rest : Alike ((composeFrom c [] 0 cs).flatMap decompose) (decompose c ++ ([].reverse ++ cs)) :=
        ih .nil (starter ▸ rises.2) later
      have step := (Alike.refl (decompose start ++ marks.reverse)).append rest
      rw [next, List.flatMap_cons, List.flatMap_append, waiting.flatMap_decompose]
      simpa only [part, List.append_assoc, List.reverse_nil, List.nil_append, List.singleton_append] using step
    · have rest : Alike ((composeFrom start (c :: marks) (combiningClass c) cs).flatMap decompose)
          (decompose start ++ ((c :: marks).reverse ++ cs)) :=
        ih (waiting.cons mark (rises.1.resolve_left mark) part) rises.2 later
      rw [next]
      simpa only [List.reverse_cons, List.append_assoc, List.singleton_append] using rest

/-- Composing sorted parts and decomposing the result leads to the same parts, but for the order of marks. -/
theorem alike_composeAll (rises : Rises k cs) (parts : ∀ c ∈ cs, decompose c = [c]) :
    Alike ((composeAll cs).flatMap decompose) cs := by
  induction cs generalizing k with
  | nil => exact .refl _
  | cons c cs ih =>
    have later : ∀ d ∈ cs, decompose d = [d] := fun d hd => parts d (List.mem_cons_of_mem _ hd)
    have part := parts c List.mem_cons_self
    rw [composeAll]
    split
    · rename_i starter
      have whole : Alike ((composeFrom c [] 0 cs).flatMap decompose) (decompose c ++ ([].reverse ++ cs)) :=
        alike_composeFrom .nil (starter ▸ rises.2) later
      rwa [part] at whole
    · rw [List.flatMap_cons, part]
      exact (Alike.refl [c]).append (ih rises.2 later)

/-! ### The composed form of any sequence -/

/-- Decomposes, sorts and composes; this is the normal form also of a text that would be its own without a look. -/
def recompose (cs : List Char) : List Char := composeAll (orderMarks (cs.flatMap decompose)).reverse

/-- Composing what was composed changes nothing. -/
theorem recompose_recompose (cs : List Char) : recompose (recompose cs) = recompose cs := by
  have rises := rises_orderMarks (cs.flatMap decompose)
  have parts : ∀ c ∈ (orderMarks (cs.flatMap decompose)).reverse, decompose c = [c] := by
    intro c hc
    rw [List.mem_reverse, mem_orderMarks] at hc
    obtain ⟨d, -, hc⟩ := List.mem_flatMap.1 hc
    exact decompose_of_mem hc
  have alike := (alike_composeAll rises parts).orderMarks_eq
  rw [orderMarks_of_rises rises, List.reverse_reverse] at alike
  rw [recompose.eq_1 (recompose cs), recompose, alike]

/-- What holds of the characters that are composed, and of what two such characters join into, holds of the result. -/
theorem forall_composeFrom {P : Char → Prop} (closed : ∀ a b r, P a → P b → compose? a b = some r → P r)
    (first : P start) (waiting : ∀ m ∈ marks, P m) (rest : ∀ c ∈ cs, P c) :
    ∀ c ∈ composeFrom start marks last cs, P c := by
  induction cs generalizing start marks last with
  | nil =>
    rw [composeFrom]
    exact List.forall_mem_cons.2 ⟨first, fun c hc => waiting c (List.mem_reverse.1 hc)⟩
  | cons c cs ih =>
    obtain ⟨here, later⟩ := List.forall_mem_cons.1 rest
    rcases composeFrom_cons start marks last c cs with ⟨start', -, joined, next⟩ | ⟨-, next⟩ | ⟨-, next⟩
    · rw [next]
      exact ih (closed _ _ _ first here joined) waiting later
    · rw [next]
      have waited : ∀ d ∈ marks.reverse, P d := fun d hd => waiting d (List.mem_reverse.1 hd)
      exact List.forall_mem_cons.2 ⟨first, List.forall_mem_append.2 ⟨waited, ih here (List.forall_mem_nil _) later⟩⟩
    · rw [next]
      exact ih first (List.forall_mem_cons.2 ⟨here, waiting⟩) later

theorem forall_composeAll {P : Char → Prop} (closed : ∀ a b r, P a → P b → compose? a b = some r → P r)
    (h : ∀ c ∈ cs, P c) : ∀ c ∈ composeAll cs, P c := by
  induction cs with
  | nil => exact h
  | cons c cs ih =>
    obtain ⟨here, later⟩ := List.forall_mem_cons.1 h
    rw [composeAll]
    split
    · exact forall_composeFrom closed here (by simp) later
    · exact List.forall_mem_cons.2 ⟨here, ih later⟩

theorem forall_recompose {P : Char → Prop} (closed : ∀ a b r, P a → P b → compose? a b = some r → P r)
    (h : ∀ c ∈ cs, ∀ d ∈ decompose c, P d) : ∀ c ∈ recompose cs, P c := by
  refine forall_composeAll closed fun c hc => ?_
  rw [List.mem_reverse, mem_orderMarks] at hc
  obtain ⟨d, hd, hc⟩ := List.mem_flatMap.1 hc
  exact h d hd c hc

/-- Mapping leaves the normal form of what it leaves. -/
theorem Stays.normalize (h : ∀ c ∈ cs, Stays c) : ∀ c ∈ normalize cs, Stays c := by
  rw [Idna.normalize]
  split
  · exact h
  · exact forall_recompose (fun _ _ _ => .compose) fun c hc => (h c hc).decompose

/-! ### Labels -/

theorem combiningClass_dot : combiningClass '.' = 0 := if_pos (by decide)

theorem insertMark_append (hd : combiningClass d = 0) (zs : List Char) :
    insertMark k c (out ++ d :: zs) = insertMark k c out ++ d :: zs := by
  induction out with
  | nil => exact if_neg (by omega)
  | cons e out ih =>
    rw [List.cons_append, insertMark, insertMark, ih]
    split <;> rfl

theorem foldl_place_append (hd : combiningClass d = 0) (zs : List Char) :
    cs.foldl place (out ++ d :: zs) = cs.foldl place out ++ d :: zs := by
  induction cs generalizing out with
  | nil => rfl
  | cons c cs ih =>
    have first : place (out ++ d :: zs) c = place out c ++ d :: zs := by
      rw [place, place, insertMark_append hd]
      split <;> rfl
    rw [List.foldl_cons, List.foldl_cons, first, ih]

theorem orderMarks_append_dot (xs ys : List Char) :
    orderMarks (xs ++ '.' :: ys) = orderMarks ys ++ '.' :: orderMarks xs := by
  have dot : place (orderMarks xs) '.' = [] ++ '.' :: orderMarks xs := if_pos combiningClass_dot
  rw [orderMarks_eq, List.foldl_append, ← orderMarks_eq, List.foldl_cons, dot, foldl_place_append combiningClass_dot,
    ← orderMarks_eq]

/-- Nothing is composed into a dot. -/
theorem composeFrom_dot : composeFrom '.' marks last cs = '.' :: (marks.reverse ++ composeAll cs) := by
  induction cs generalizing marks last with
  | nil => rw [composeFrom, composeAll, List.append_nil]
  | cons c cs ih =>
    rw [composeFrom, composeAll, compose?_dot, ite_self]
    dsimp only
    split
    · rfl
    · rw [ih, List.reverse_cons, List.append_assoc]
      rfl

theorem composeFrom_append_dot : composeFrom start marks last (cs ++ '.' :: ys) =
    composeFrom start marks last cs ++ '.' :: composeAll ys := by
  induction cs generalizing start marks last with
  | nil =>
    rw [List.nil_append, composeFrom, composeFrom, compose?_dot_right, ite_self, if_pos combiningClass_dot,
      composeFrom_dot]
    rfl
  | cons c cs ih =>
    rw [List.cons_append, composeFrom, composeFrom]
    split
    · exact ih
    · split
      · rw [ih, List.append_assoc]
      · exact ih

theorem composeAll_append_dot (xs ys : List Char) :
    composeAll (xs ++ '.' :: ys) = composeAll xs ++ '.' :: composeAll ys := by
  induction xs with
  | nil =>
    have first : composeAll ('.' :: ys) = composeFrom '.' [] 0 ys := if_pos combiningClass_dot
    rw [List.nil_append, first, composeFrom_dot]
    rfl
  | cons c xs ih =>
    rw [List.cons_append, composeAll, composeAll]
    split
    · exact composeFrom_append_dot
    · rw [ih]
      rfl

theorem recompose_append_dot (xs ys : List Char) : recompose (xs ++ '.' :: ys) = recompose xs ++ '.' :: recompose ys := by
  have dot : decompose '.' = ['.'] := rfl
  rw [recompose, List.flatMap_append, List.flatMap_cons, dot, List.singleton_append, orderMarks_append_dot,
    List.reverse_append, List.reverse_cons, List.append_assoc, List.singleton_append, composeAll_append_dot]
  rfl

theorem recompose_joinLabels (parts : List (List Char)) :
    recompose (joinLabels parts) = joinLabels (parts.map recompose) := by
  induction parts with
  | nil => rfl
  | cons part parts ih =>
    cases parts with
    | nil => rfl
    | cons part' parts =>
      rw [joinLabels_cons_cons, recompose_append_dot, ih]
      rfl

theorem dot_not_mem_recompose (h : '.' ∉ cs) : '.' ∉ recompose cs := by
  have all : ∀ c ∈ recompose cs, c ≠ '.' := by
    refine forall_recompose ?_ ?_
    · rintro a b r - hb joined rfl
      have undone := decompose_compose joined
      have last : ['.'].getLast? = (decompose a ++ [b]).getLast? := by rw [← undone]; rfl
      rw [List.getLast?_concat] at last
      exact hb (Option.some.inj last).symm
    · rintro c hc d hd rfl
      exact h (dot_of_mem_decompose hd ▸ hc)
  exact fun hd => all '.' hd rfl

theorem labelsOf_joinLabels {parts : List (List Char)} (filled : parts ≠ []) (h : ∀ part ∈ parts, '.' ∉ part) :
    labelsOf (joinLabels parts) = parts := by
  rw [labelsOf_eq, joinLabels_eq]
  exact List.splitOn_intercalate _ h filled

theorem labelsOf_ne_nil (cs : List Char) : labelsOf cs ≠ [] := by
  rw [labelsOf_eq]
  exact List.splitOn_ne_nil _ _

theorem dot_not_mem_label : ∀ label ∈ labelsOf cs, '.' ∉ label := by
  induction cs with
  | nil => simp [labelsOf]
  | cons c cs ih =>
    rw [labelsOf]
    split
    · exact List.forall_mem_cons.2 ⟨List.not_mem_nil, ih⟩
    · rename_i other
      split
      · rename_i label labels whole
        rw [whole] at ih
        obtain ⟨first, rest⟩ := List.forall_mem_cons.1 ih
        exact List.forall_mem_cons.2 ⟨by simp [Ne.symm other, first], rest⟩
      · simp [Ne.symm other]

theorem labelsOf_recompose (cs : List Char) : labelsOf (recompose cs) = (labelsOf cs).map recompose := by
  have split := recompose_joinLabels (labelsOf cs)
  rw [joinLabels_labelsOf] at split
  rw [split]
  refine labelsOf_joinLabels (by simpa using labelsOf_ne_nil cs) fun part hp => ?_
  obtain ⟨label, hl, rfl⟩ := List.mem_map.1 hp
  exact dot_not_mem_recompose (dot_not_mem_label label hl)

/-- A label of a normal form is its own normal form. -/
theorem normalize_label {label : List Char} (hl : label ∈ labelsOf (normalize cs)) : normalize label = label := by
  by_cases plain : (label.all fun c => c.toNat < 0xC0) = true
  · rw [normalize, if_pos plain]
  · have wide : ¬ ((cs.all fun c => c.toNat < 0xC0) = true) := by
      intro all
      rw [normalize, if_pos all] at hl
      refine plain (List.all_eq_true.2 fun c hc => ?_)
      exact List.all_eq_true.1 all c (mem_of_mem_labelsOf hl hc)
    have normal : normalize cs = recompose cs := if_neg wide
    have settled : (labelsOf (recompose cs)).map recompose = (labelsOf (recompose cs)).map id := by
      rw [← labelsOf_recompose, recompose_recompose, List.map_id]
    rw [normal] at hl
    rw [normalize, if_neg plain]
    exact List.map_inj_left.1 settled label hl

end IdentityClient.Idna
