import IdentityClient.Proofs.Json.Number
import IdentityClient.Proofs.Json.Text

/-!
# Passing values

A value of any kind is passed over whole, however deeply it is nested (`skipValue_of_stands`). The passing keeps no tree,
only the lists and objects that are still open; `resume` is how it goes on when a value inside them has been passed.
-/

namespace IdentityClient.Json

variable {cs rest : List Char} {p : Part} {v : Value}

/-! ### Where parts stand -/

theorem isBlank_of_isDigit {c : Char} (h : c.isDigit) : isBlank c = false := by
  rw [← Bool.not_eq_true]
  intro blank
  simp only [isBlank, Bool.or_eq_true, beq_iff_eq] at blank
  rcases blank with ((rfl | rfl) | rfl) | rfl <;> exact absurd h (by decide)

theorem NumberLiteral.exists_cons (n : NumberLiteral) : ∃ c cs, n.chars = c :: cs ∧ (c = '-' ∨ c.isDigit) := by
  obtain ⟨c, ds, chars, isDigit, -⟩ := n.whole.exists_cons
  unfold NumberLiteral.chars NumberLiteral.unsigned
  rw [chars]
  cases n.negative
  · exact ⟨c, _, rfl, .inr isDigit⟩
  · exact ⟨'-', _, rfl, .inl rfl⟩

/-- A value starts with a character that is no blank and that stands behind no value. -/
theorem Stands.exists_cons (h : Stands (.value v) cs rest) :
    ∃ c ds, cs = c :: ds ∧ isBlank c = false ∧ c ≠ ',' ∧ c ≠ ']' ∧ c ≠ '\x7d' := by
  cases h with
  | null | yes | no | text | list | object => exact ⟨_, _, rfl, rfl, by decide, by decide, by decide⟩
  | number n =>
    obtain ⟨c, ds, chars, first⟩ := n.exists_cons
    refine ⟨c, ds ++ rest, by rw [chars]; rfl, ?_⟩
    rcases first with rfl | isDigit
    · exact ⟨rfl, by decide, by decide, by decide⟩
    · have ne {d : Char} : d.isDigit = false → c ≠ d := ne_of_isDigit isDigit
      exact ⟨isBlank_of_isDigit isDigit, ne rfl, ne rfl, ne rfl⟩

theorem Stands.skipBlank_value (h : Stands (.value v) cs rest) : skipBlank cs = cs := by
  obtain ⟨c, ds, rfl, blank, -⟩ := h.exists_cons
  exact skipBlank_of_head blank

theorem length_lt_of_skipBlank {c : Char} (h : skipBlank cs = c :: rest) : rest.length < cs.length := by
  have := length_skipBlank_le cs
  rw [h, List.length_cons] at this
  omega

theorem Stands.length_lt (h : Stands p cs rest) : rest.length < cs.length := by
  induction h with
  | null | yes | no => simp only [List.length_cons]; omega
  | number n =>
    obtain ⟨c, ds, chars, -⟩ := n.exists_cons
    simp only [chars, List.length_append, List.length_cons]
    omega
  | text => simp only [List.length_cons, List.length_append]; omega
  | list _ ih | object _ ih => simp only [List.length_cons]; omega
  | noItems closes | lastItem closes | noMembers closes | lastMember closes => exact length_lt_of_skipBlank closes
  | @items v vs cs mid rest _ _ first later =>
    have := length_skipBlank_le cs
    omega
  | nextItem comma _ ih | nextMember comma _ ih =>
    have := length_lt_of_skipBlank comma
    omega
  | @member t v cs mid later rest name colon _ ih =>
    have := length_lt_of_skipBlank name
    have := length_lt_of_skipBlank colon
    have := length_skipBlank_le later
    simp only [List.length_append, List.length_cons] at *
    omega
  | members _ _ first later => omega

theorem ends_of_isBlank {c : Char} (h : isBlank c) : c.isDigit = false ∧ c ≠ '.' ∧ c ≠ 'e' ∧ c ≠ 'E' := by
  simp only [isBlank, Bool.or_eq_true, beq_iff_eq] at h
  rcases h with ((rfl | rfl) | rfl) | rfl <;> decide

/-- A mark behind blanks ends a number. -/
theorem ends_of_skipBlank {c : Char} (h : skipBlank cs = c :: rest)
    (mark : c.isDigit = false ∧ c ≠ '.' ∧ c ≠ 'e' ∧ c ≠ 'E') : Ends cs := by
  cases cs with
  | nil => exact ends_nil
  | cons d cs =>
    by_cases blank : isBlank d
    · exact ends_cons (ends_of_isBlank blank)
    · rw [skipBlank_of_head (by simpa using blank)] at h
      obtain ⟨rfl, -⟩ := List.cons.inj h
      exact ends_cons mark

theorem ends_of_blank (h : skipBlank cs = []) : Ends cs := by
  cases cs with
  | nil => exact ends_nil
  | cons d cs =>
    by_cases blank : isBlank d
    · exact ends_cons (ends_of_isBlank blank)
    · rw [skipBlank_of_head (by simpa using blank)] at h
      cases h

theorem Stands.ends_items {vs : List Value} (h : Stands (.moreItems vs) cs rest) : Ends cs := by
  cases h with
  | lastItem closes => exact ends_of_skipBlank closes (by decide)
  | nextItem comma => exact ends_of_skipBlank comma (by decide)

theorem Stands.ends_members {ms : List (TextLiteral × Value)} (h : Stands (.moreMembers ms) cs rest) : Ends cs := by
  cases h with
  | lastMember closes => exact ends_of_skipBlank closes (by decide)
  | nextMember comma => exact ends_of_skipBlank comma (by decide)

/-! ### Passing -/

/-- Passing goes on behind a value that stood inside the frames of `stack`. -/
def resume (fuel : Nat) (stack : List Frame) (rest : List Char) : Except Fault (List Char) :=
  match stack with
  | [] => .ok rest
  | frame :: stack => skipAfter fuel frame stack true rest

theorem skipScalar_digit {c : Char} (isDigit : c.isDigit) : skipScalar c cs = skipNumber (c :: cs) := by
  have ne {d : Char} : d.isDigit = false → c ≠ d := ne_of_isDigit isDigit
  rw [skipScalar, if_neg (ne rfl), if_neg (ne rfl), if_neg (ne rfl), if_neg (ne rfl), if_pos isDigit]

theorem skipScalar_number (n : NumberLiteral) (h : Ends rest) :
    ∃ c cs, n.chars ++ rest = c :: cs ∧ (c = '-' ∨ c.isDigit) ∧ skipScalar c cs = .ok rest := by
  have passed := skipNumber_unsigned n h
  obtain ⟨c, ds, chars, isDigit, -⟩ := n.whole.exists_cons
  unfold NumberLiteral.chars
  cases n.negative with
  | true => exact ⟨'-', _, rfl, .inl rfl, passed⟩
  | false =>
    rw [NumberLiteral.unsigned, chars] at passed
    refine ⟨c, _, ?_, .inr isDigit, (skipScalar_digit isDigit).trans passed⟩
    rw [if_neg Bool.false_ne_true, NumberLiteral.unsigned, chars]
    rfl

section Steps

variable {fuel : Nat} {frame : Frame} {stack : List Frame} {c : Char}

theorem skipItem_scalar (front : skipBlank cs = c :: rest) (list : c ≠ '[') (object : c ≠ '\x7b') {later : List Char}
    (scalar : skipScalar c rest = .ok later) : skipItem (fuel + 1) stack cs = resume fuel stack later := by
  simp only [skipItem, front, if_neg list, if_neg object, scalar]
  cases stack <;> rfl

theorem skipAfter_close {comma : Bool} (front : skipBlank cs = frame.close :: rest) :
    skipAfter (fuel + 1) frame stack comma cs = resume fuel stack rest := by
  have no_comma : ¬ (frame.close = ',' ∧ comma = true) := by cases frame <;> simp [Frame.close]
  simp only [skipAfter, front, if_neg no_comma, if_true]
  cases stack <;> rfl

theorem skipAfter_comma (front : skipBlank cs = ',' :: rest) :
    skipAfter (fuel + 1) frame stack true cs = skipEntry fuel frame stack rest := by
  simp [skipAfter, front]

theorem skipAfter_entry (front : skipBlank cs = c :: rest) (open_ : c ≠ frame.close) :
    skipAfter (fuel + 1) frame stack false cs = skipEntry fuel frame stack (skipBlank cs) := by
  simp [skipAfter, front, open_]

theorem skipItem_skipBlank (fuel : Nat) (stack : List Frame) (cs : List Char) :
    skipItem fuel stack (skipBlank cs) = skipItem fuel stack cs := by
  cases fuel with
  | zero => simp only [skipItem]
  | succ fuel => simp only [skipItem, skipBlank_skipBlank]

theorem skipEntry_skipBlank (fuel : Nat) (frame : Frame) (stack : List Frame) (cs : List Char) :
    skipEntry fuel frame stack (skipBlank cs) = skipEntry fuel frame stack cs := by
  cases fuel with
  | zero => simp only [skipEntry]
  | succ fuel =>
    cases frame with
    | list => exact skipItem_skipBlank fuel _ cs
    | object => simp only [skipEntry, skipKey, skipBlank_skipBlank]

/-- Behind a comma, and behind an opening where an entry stands, the passing goes on alike. -/
theorem skipAfter_comma_entry {mid : List Char} (comma : skipBlank cs = ',' :: mid) (front : skipBlank mid = c :: rest)
    (open_ : c ≠ frame.close) :
    skipAfter (fuel + 1) frame stack true cs = skipAfter (fuel + 1) frame stack false mid := by
  rw [skipAfter_comma comma, skipAfter_entry front open_, skipEntry_skipBlank]

theorem skipKey_chars {t : TextLiteral} {mid : List Char} (name : skipBlank cs = '"' :: (t.chars ++ '"' :: mid))
    (colon : skipBlank mid = ':' :: rest) : skipKey cs = .ok rest := by
  simp [skipKey, name, skipText_chars, colon]

end Steps

/-- What passing a part comes to, with enough fuel. A member and a value are passed inside of what is open. -/
def Part.Passed : Part → List Char → List Char → Prop
  | .value _, cs, rest => Ends rest → ∀ fuel stack, 3 * cs.length ≤ fuel →
    ∃ left, 3 * rest.length ≤ left ∧ skipItem fuel stack cs = resume left stack rest
  | .items _, cs, rest => ∀ fuel stack, 3 * cs.length + 2 ≤ fuel →
    ∃ left, 3 * rest.length ≤ left ∧ skipAfter fuel .list stack false cs = resume left stack rest
  | .moreItems _, cs, rest => ∀ fuel stack, 3 * cs.length ≤ fuel →
    ∃ left, 3 * rest.length ≤ left ∧ skipAfter fuel .list stack true cs = resume left stack rest
  | .member _, cs, rest => Ends rest → ∀ fuel stack, 3 * cs.length + 1 ≤ fuel →
    ∃ left, 3 * rest.length ≤ left ∧ skipEntry fuel .object stack cs = skipAfter left .object stack true rest
  | .members _, cs, rest => ∀ fuel stack, 3 * cs.length + 2 ≤ fuel →
    ∃ left, 3 * rest.length ≤ left ∧ skipAfter fuel .object stack false cs = resume left stack rest
  | .moreMembers _, cs, rest => ∀ fuel stack, 3 * cs.length ≤ fuel →
    ∃ left, 3 * rest.length ≤ left ∧ skipAfter fuel .object stack true cs = resume left stack rest

theorem passed_scalar {c : Char} (list : c ≠ '[') (object : c ≠ '\x7b') (blank : isBlank c = false)
    (scalar : skipScalar c cs = .ok rest) (shorter : rest.length ≤ cs.length) (fuel : Nat) (stack : List Frame)
    (enough : 3 * (c :: cs).length ≤ fuel) :
    ∃ left, 3 * rest.length ≤ left ∧ skipItem fuel stack (c :: cs) = resume left stack rest := by
  simp only [List.length_cons] at enough
  obtain ⟨fuel, rfl⟩ := Nat.exists_eq_add_one_of_ne_zero (show fuel ≠ 0 by omega)
  exact ⟨fuel, by omega, skipItem_scalar (skipBlank_of_head blank) list object scalar⟩

theorem passed_number (n : NumberLiteral) (rest : List Char) :
    (Part.value (.number n)).Passed (n.chars ++ rest) rest := by
  intro ends
  obtain ⟨c, ds, chars, first, scalar⟩ := skipScalar_number n ends
  have shorter : rest.length ≤ ds.length := by
    have := congrArg List.length chars
    obtain ⟨_, _, chars', -⟩ := n.exists_cons
    simp only [chars', List.length_append, List.length_cons] at this
    omega
  rw [chars]
  rcases first with rfl | isDigit
  · exact passed_scalar (by decide) (by decide) rfl scalar shorter
  · have ne {d : Char} : d.isDigit = false → c ≠ d := ne_of_isDigit isDigit
    exact passed_scalar (ne rfl) (ne rfl) (isBlank_of_isDigit isDigit) scalar shorter

theorem passed_close {frame : Frame} {comma : Bool} (closes : skipBlank cs = frame.close :: rest) (fuel : Nat)
    (stack : List Frame) (enough : 3 * cs.length ≤ fuel) :
    ∃ left, 3 * rest.length ≤ left ∧ skipAfter fuel frame stack comma cs = resume left stack rest := by
  have := length_lt_of_skipBlank closes
  obtain ⟨fuel, rfl⟩ := Nat.exists_eq_add_one_of_ne_zero (show fuel ≠ 0 by omega)
  exact ⟨fuel, by omega, skipAfter_close closes⟩

section Nested

variable {mid : List Char} {vs : List Value} {m : TextLiteral × Value} {ms : List (TextLiteral × Value)}

theorem passed_items (first : Stands (.value v) (skipBlank cs) mid) (later : Stands (.moreItems vs) mid rest)
    (value_passed : (Part.value v).Passed (skipBlank cs) mid) (items_passed : (Part.moreItems vs).Passed mid rest) :
    (Part.items (v :: vs)).Passed cs rest := by
  intro fuel stack enough
  obtain ⟨c, ds, front, -, -, open_, -⟩ := first.exists_cons
  have := length_skipBlank_le cs
  -- One step looks for the end of the list, one enters the item; an item is passed with what is left.
  obtain ⟨fuel, rfl⟩ := Nat.exists_eq_add_of_le (show 2 ≤ fuel by omega)
  obtain ⟨left, enough', value⟩ := value_passed later.ends_items fuel (.list :: stack) (by omega)
  obtain ⟨left', enough'', passed⟩ := items_passed left stack enough'
  refine ⟨left', enough'', ?_⟩
  have entry : skipAfter (fuel + 1 + 1) .list stack false cs = skipEntry (fuel + 1) .list stack (skipBlank cs) :=
    skipAfter_entry front open_
  rw [Nat.add_comm 2 fuel, entry]
  exact value.trans passed

theorem passed_nextItem (comma : skipBlank cs = ',' :: mid) (later : Stands (.items (v :: vs)) mid rest)
    (items_passed : (Part.items (v :: vs)).Passed mid rest) : (Part.moreItems (v :: vs)).Passed cs rest := by
  intro fuel stack enough
  have := length_lt_of_skipBlank comma
  obtain ⟨left, enough', passed⟩ := items_passed fuel stack (by omega)
  obtain ⟨fuel, rfl⟩ := Nat.exists_eq_add_one_of_ne_zero (show fuel ≠ 0 by omega)
  cases later with
  | items first =>
    obtain ⟨c, ds, front, -, -, open_, -⟩ := first.exists_cons
    have entry : skipAfter (fuel + 1) .list stack true cs = skipAfter (fuel + 1) .list stack false mid :=
      skipAfter_comma_entry comma front open_
    exact ⟨left, enough', entry.trans passed⟩

theorem passed_member {t : TextLiteral} {later : List Char} (name : skipBlank cs = '"' :: (t.chars ++ '"' :: mid))
    (colon : skipBlank mid = ':' :: later) (value_passed : (Part.value v).Passed (skipBlank later) rest) :
    (Part.member (t, v)).Passed cs rest := by
  intro ends fuel stack enough
  have behind_name := length_lt_of_skipBlank name
  have behind_colon := length_lt_of_skipBlank colon
  have behind_blank := length_skipBlank_le later
  simp only [List.length_append, List.length_cons] at behind_name
  obtain ⟨fuel, rfl⟩ := Nat.exists_eq_add_one_of_ne_zero (show fuel ≠ 0 by omega)
  obtain ⟨left, enough', passed⟩ := value_passed ends fuel (.object :: stack) (by omega)
  refine ⟨left, enough', ?_⟩
  rw [skipItem_skipBlank] at passed
  simp only [skipEntry, skipKey_chars name colon]
  exact passed

theorem passed_members (first : Stands (.member m) cs mid) (later : Stands (.moreMembers ms) mid rest)
    (member_passed : (Part.member m).Passed cs mid) (members_passed : (Part.moreMembers ms).Passed mid rest) :
    (Part.members (m :: ms)).Passed cs rest := by
  intro fuel stack enough
  obtain ⟨fuel, rfl⟩ := Nat.exists_eq_add_one_of_ne_zero (show fuel ≠ 0 by omega)
  obtain ⟨left, enough', member⟩ := member_passed later.ends_members fuel stack (by omega)
  obtain ⟨left', enough'', passed⟩ := members_passed left stack enough'
  refine ⟨left', enough'', ?_⟩
  cases first with
  | member name =>
    rw [skipAfter_entry name (by decide), skipEntry_skipBlank]
    exact member.trans passed

theorem passed_nextMember (comma : skipBlank cs = ',' :: mid) (later : Stands (.members (m :: ms)) mid rest)
    (members_passed : (Part.members (m :: ms)).Passed mid rest) : (Part.moreMembers (m :: ms)).Passed cs rest := by
  intro fuel stack enough
  have := length_lt_of_skipBlank comma
  obtain ⟨left, enough', passed⟩ := members_passed fuel stack (by omega)
  obtain ⟨fuel, rfl⟩ := Nat.exists_eq_add_one_of_ne_zero (show fuel ≠ 0 by omega)
  cases later with
  | members first =>
    cases first with
    | member name => exact ⟨left, enough', (skipAfter_comma_entry comma name (by decide)).trans passed⟩

end Nested

theorem Stands.passed (h : Stands p cs rest) : p.Passed cs rest := by
  induction h with
  | null rest | yes rest | no rest =>
    refine fun _ => passed_scalar (by decide) (by decide) rfl rfl ?_
    simp only [List.length_cons]
    omega
  | number n rest => exact passed_number n rest
  | text t rest =>
    refine fun _ => passed_scalar (by decide) (by decide) rfl (skipText_chars t rest) ?_
    simp only [List.length_append, List.length_cons]
    omega
  | list inside ih | object inside ih =>
    intro _ fuel stack enough
    simp only [List.length_cons] at enough
    obtain ⟨fuel, rfl⟩ := Nat.exists_eq_add_one_of_ne_zero (show fuel ≠ 0 by omega)
    obtain ⟨left, enough', passed⟩ := ih fuel stack (by omega)
    exact ⟨left, enough', passed⟩
  | noItems closes | noMembers closes => exact fun fuel stack enough => passed_close closes fuel stack (by omega)
  | lastItem closes | lastMember closes => exact passed_close closes
  | items first later value_ih items_ih => exact passed_items first later value_ih items_ih
  | nextItem comma later ih => exact passed_nextItem comma later ih
  | member name colon value ih => exact passed_member name colon ih
  | members first later member_ih members_ih => exact passed_members first later member_ih members_ih
  | nextMember comma later ih => exact passed_nextMember comma later ih

theorem skipValue_of_stands (h : Stands (.value v) (skipBlank cs) rest) (ends : Ends rest) :
    skipValue cs = .ok rest := by
  have := length_skipBlank_le cs
  obtain ⟨left, -, passed⟩ := h.passed ends (3 * cs.length + 3) [] (by omega)
  rw [skipItem_skipBlank] at passed
  exact passed

end IdentityClient.Json
