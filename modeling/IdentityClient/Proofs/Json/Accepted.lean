import IdentityClient.Proofs.Json.Record

/-!
# What is accepted is a document

Whatever a reader took in, or passed, stands there as a part of a document. With `record_of_document` this says what
reading comes to without the readers: a text gives a record exactly if it is a document whose tree gives that record
(`record_eq_ok_iff`).
-/

namespace IdentityClient.Json

open NumberLiteral (fractionChars exponentChars)

variable {u : Units} {s : Schema} {cs rest : List Char} {negative : Bool} {significand : Nat} {start : Int}
  {seen r : Record}

/-! ### Numbers that are passed -/

/-- The digits at the front of a text. -/
def Digits.front (c : Char) (isDigit : c.isDigit) (cs : List Char) : Digits where
  chars := c :: cs.takeWhile Char.isDigit
  nonempty := List.cons_ne_nil _ _
  digits := List.forall_mem_cons.2 ⟨isDigit, fun _ mem => List.mem_takeWhile_imp mem⟩

theorem Digits.front_append (c : Char) (isDigit : c.isDigit) (cs : List Char) :
    (front c isDigit cs).chars ++ cs.dropWhile Char.isDigit = c :: cs := by
  simp [front]

theorem skipExponent_unsigned {c : Char} (plus : c ≠ '+') (minus : c ≠ '-') (h : skipExponent (c :: cs) = .ok rest) :
    ∃ isDigit : c.isDigit, c :: cs = (Digits.front c isDigit cs).chars ++ rest := by
  by_cases isDigit : c.isDigit
  · rw [skipExponent_digit isDigit] at h
    obtain rfl := Except.ok.inj h
    exact ⟨isDigit, (Digits.front_append c isDigit cs).symm⟩
  · unfold skipExponent at h
    split at h
    · rename_i first; exact absurd (List.cons.inj first).1 plus
    · rename_i first; exact absurd (List.cons.inj first).1 minus
    · dsimp only at h
      rw [if_neg isDigit] at h
      cases h

theorem skipExponent_signed {sign : Char} (signs : sign = '+' ∨ sign = '-') (h : skipExponent (sign :: cs) = .ok rest) :
    ∃ c cs', cs = c :: cs' ∧ ∃ isDigit : c.isDigit, cs = (Digits.front c isDigit cs').chars ++ rest := by
  cases cs with
  | nil => rcases signs with rfl | rfl <;> cases h
  | cons c cs =>
    have passed : (if c.isDigit then Except.ok (cs.dropWhile Char.isDigit) else .error Fault.badNumber) = .ok rest := by
      rcases signs with rfl | rfl <;> exact h
    split_ifs at passed with isDigit
    obtain rfl := Except.ok.inj passed
    exact ⟨c, cs, rfl, isDigit, (Digits.front_append c isDigit cs).symm⟩

theorem exists_chars_of_skipExponent (h : skipExponent cs = .ok rest) {mark : Char} (marks : mark = 'e' ∨ mark = 'E') :
    ∃ e : Exponent, mark :: cs = exponentChars (some e) ++ rest := by
  cases cs with
  | nil => cases h
  | cons c cs =>
    by_cases signed : c = '+' ∨ c = '-'
    · obtain ⟨d, ds, -, isDigit, chars⟩ := skipExponent_signed signed h
      refine ⟨⟨mark, marks, [c], .inr (by simpa using signed), .front d isDigit ds⟩, ?_⟩
      rw [chars]
      simp [exponentChars]
    · push Not at signed
      obtain ⟨isDigit, chars⟩ := skipExponent_unsigned signed.1 signed.2 h
      refine ⟨⟨mark, marks, [], .inl rfl, .front c isDigit cs⟩, ?_⟩
      rw [chars]
      simp [exponentChars]

theorem exists_chars_of_skipNumberTail (h : skipNumberTail cs = .ok rest) :
    ∃ e, cs = exponentChars e ++ rest := by
  unfold skipNumberTail at h
  split at h
  · obtain ⟨e, chars⟩ := exists_chars_of_skipExponent h (.inl rfl)
    exact ⟨some e, chars⟩
  · obtain ⟨e, chars⟩ := exists_chars_of_skipExponent h (.inr rfl)
    exact ⟨some e, chars⟩
  · exact ⟨none, Except.ok.inj h⟩

theorem exists_chars_of_skipAfterWhole (h : skipAfterWhole cs = .ok rest) :
    ∃ f e, cs = fractionChars f ++ (exponentChars e ++ rest) := by
  unfold skipAfterWhole at h
  split at h
  · rename_i c later
    split_ifs at h with isDigit
    obtain ⟨e, chars⟩ := exists_chars_of_skipNumberTail h
    refine ⟨some (.front c isDigit later), e, ?_⟩
    rw [fractionChars, ← chars, List.cons_append, Digits.front_append]
  · cases h
  · obtain ⟨e, chars⟩ := exists_chars_of_skipNumberTail h
    exact ⟨none, e, chars⟩

theorem exists_unsigned_of_skipNumber (h : skipNumber cs = .ok rest) (negative : Bool) :
    ∃ n : NumberLiteral, n.negative = negative ∧ cs = n.unsigned ++ rest := by
  have literal {c : Char} {later : List Char} (isDigit : c.isDigit) (zero : c = '0' → NoDigit later)
      (passed : skipAfterWhole (later.dropWhile Char.isDigit) = .ok rest) :
      ∃ n : NumberLiteral, n.negative = negative ∧ c :: later = n.unsigned ++ rest := by
    obtain ⟨f, e, chars⟩ := exists_chars_of_skipAfterWhole passed
    refine ⟨⟨negative, .front c isDigit later, fun first => ?_, f, e⟩, rfl, ?_⟩
    · obtain rfl : c = '0' := Option.some.inj first
      have none : later.takeWhile Char.isDigit = [] := by
        cases later with
        | nil => rfl
        | cons d later => simp [zero rfl d rfl]
      simp [Digits.front, none]
    · simp only [NumberLiteral.unsigned, List.append_assoc, ← chars, Digits.front_append]
  unfold skipNumber at h
  split at h
  · cases h
  · rename_i c later
    split_ifs at h with isDigit
    have noDigit : NoDigit (c :: later) := noDigit_cons (by simpa using isDigit)
    exact literal rfl (fun _ => noDigit) (by rwa [dropWhile_of_noDigit noDigit])
  · obtain rfl := Except.ok.inj h
    exact literal rfl (fun _ => fun _ hc => by cases hc) rfl
  · rename_i c later first_zero zero
    split_ifs at h with isDigit
    refine literal isDigit ?_ h
    rintro rfl
    cases later with
    | nil => exact (zero rfl rfl).elim
    | cons d later => exact (first_zero d later rfl rfl).elim

/-! ### Numbers that are read -/

theorem readExponentDigits_rest (cs : List Char) (e : Nat) :
    (readExponentDigits e cs).2 = cs.dropWhile Char.isDigit := by
  induction cs generalizing e with
  | nil => rfl
  | cons c cs ih =>
    rw [readExponentDigits, List.dropWhile_cons]
    split_ifs
    · rfl
    · exact ih _
    · rfl

theorem exists_digit_of_readExponent {n : Number} (h : readExponent negative significand start cs = .ok (n, rest)) :
    ∃ sign c ds, (sign = [] ∨ sign = ['+'] ∨ sign = ['-']) ∧ cs = sign ++ c :: ds ∧ c.isDigit := by
  have signed {sign : Char} (signs : sign = '+' ∨ sign = '-') {later : List Char}
      (h : readExponent negative significand start (sign :: later) = .ok (n, rest)) :
      ∃ c ds, later = c :: ds ∧ c.isDigit := by
    cases later with
    | nil => rcases signs with rfl | rfl <;> cases h
    | cons c ds =>
      by_cases isDigit : c.isDigit
      · exact ⟨c, ds, rfl, isDigit⟩
      · have refused : readExponent negative significand start (sign :: c :: ds) = .error .badNumber := by
          rcases signs with rfl | rfl <;> exact if_neg isDigit
        rw [refused] at h
        cases h
  cases cs with
  | nil => cases h
  | cons c cs =>
    by_cases signs : c = '+' ∨ c = '-'
    · obtain ⟨d, ds, rfl, isDigit⟩ := signed signs h
      exact ⟨[c], d, ds, .inr (by simpa using signs), rfl, isDigit⟩
    · push Not at signs
      refine ⟨[], c, cs, .inl rfl, rfl, ?_⟩
      by_contra isDigit
      unfold readExponent at h
      split at h
      rename_i same
      split at same
      · rename_i first; exact signs.1 (List.cons.inj first).1
      · rename_i first; exact signs.2 (List.cons.inj first).1
      · cases same
        dsimp only at h
        rw [if_neg isDigit] at h
        cases h

theorem skipExponent_of_readExponent {n : Number} (h : readExponent negative significand start cs = .ok (n, rest)) :
    skipExponent cs = .ok rest := by
  obtain ⟨sign, c, ds, signs, rfl, isDigit⟩ := exists_digit_of_readExponent h
  rw [readExponent_sign _ _ _ signs isDigit] at h
  have behind : ds.dropWhile Char.isDigit = rest := by
    rw [← readExponentDigits_rest ds (digitValue c)]
    cases made : exponentNumber negative (sign == ['-']) significand start (readExponentDigits (digitValue c) ds).1 with
    | error e => rw [made] at h; cases h
    | ok m => rw [made] at h; exact congrArg Prod.snd (Except.ok.inj h)
  rcases signs with rfl | rfl | rfl
  · rw [List.nil_append, skipExponent_digit isDigit, behind]
  · exact (if_pos isDigit).trans (congrArg Except.ok behind)
  · exact (if_pos isDigit).trans (congrArg Except.ok behind)

theorem skipNumberTail_of_finishNumber {n : Number} (h : finishNumber negative significand start cs = .ok (n, rest)) :
    skipNumberTail cs = .ok rest := by
  unfold finishNumber at h
  split at h
  · exact skipExponent_of_readExponent h
  · exact skipExponent_of_readExponent h
  · rename_i small large
    unfold skipNumberTail
    split
    · exact (small _ rfl).elim
    · exact (large _ rfl).elim
    · split at h
      · cases h
      · cases h
        rfl

/-- The digits of a fraction, of which some have been read. -/
theorem skipNumberTail_of_readFraction {n : Number} {places : Nat}
    (h : readFraction negative start significand places cs = .ok (n, rest)) :
    skipNumberTail (cs.dropWhile Char.isDigit) = .ok rest ∧ (places = 0 → ∃ c ∈ cs.head?, c.isDigit) := by
  induction cs generalizing significand places with
  | nil =>
    cases places with
    | zero => cases h
    | succ places => exact ⟨skipNumberTail_of_finishNumber h, nofun⟩
  | cons c cs ih =>
    rw [readFraction] at h
    split_ifs at h with isDigit long none
    · rw [List.dropWhile_cons_of_pos isDigit]
      exact ⟨skipNumberTail_of_finishNumber h, fun _ => ⟨c, rfl, isDigit⟩⟩
    · rw [List.dropWhile_cons_of_pos isDigit]
      exact ⟨(ih h).1, fun _ => ⟨c, rfl, isDigit⟩⟩
    · rw [List.dropWhile_cons_of_neg isDigit]
      exact ⟨skipNumberTail_of_finishNumber h, fun zero => absurd zero none⟩

theorem skipAfterWhole_of_afterWhole {n : Number} {dropped : Nat}
    (h : afterWhole negative significand dropped cs = .ok (n, rest)) : skipAfterWhole cs = .ok rest := by
  unfold afterWhole at h
  split at h
  · rename_i later
    obtain ⟨passed, digit⟩ := skipNumberTail_of_readFraction h
    obtain ⟨c, first, isDigit⟩ := digit rfl
    cases later with
    | nil => cases first
    | cons d later =>
      obtain rfl : d = c := Option.some.inj first
      rw [List.dropWhile_cons_of_pos isDigit] at passed
      rw [skipAfterWhole, if_pos isDigit, passed]
  · rename_i point
    rw [skipAfterWhole_of_ne_point]
    · exact skipNumberTail_of_finishNumber h
    · rintro c first rfl
      cases cs with
      | nil => cases first
      | cons d cs =>
        obtain rfl : d = '.' := Option.some.inj first
        exact point cs rfl

theorem skipAfterWhole_of_readWhole {n : Number} (h : readWhole negative significand cs = .ok (n, rest)) :
    skipAfterWhole (cs.dropWhile Char.isDigit) = .ok rest := by
  have whole {cs : List Char} {significand : Nat} (here : readWhole negative significand cs =
      (wholeNumber negative significand).map fun n => (n, cs)) (h : readWhole negative significand cs = .ok (n, rest)) :
      cs = rest := by
    rw [here] at h
    cases made : wholeNumber negative significand with
    | error e => rw [made] at h; cases h
    | ok m => rw [made] at h; exact congrArg Prod.snd (Except.ok.inj h)
  induction cs generalizing significand with
  | nil =>
    obtain rfl := whole (readWhole_end _ _ ends_nil) h
    rfl
  | cons c cs ih =>
    by_cases isDigit : c.isDigit
    · rw [List.dropWhile_cons_of_pos isDigit]
      rw [readWhole, if_pos isDigit] at h
      split_ifs at h
      · exact skipAfterWhole_of_afterWhole h
      · exact ih h
    · rw [List.dropWhile_cons_of_neg isDigit]
      by_cases tail : c = '.' ∨ c = 'e' ∨ c = 'E'
      · rw [readWhole_tail _ _ tail] at h
        exact skipAfterWhole_of_afterWhole h
      · push Not at tail
        have ends : Ends (c :: cs) := ends_cons ⟨by simpa using isDigit, tail⟩
        obtain rfl := whole (readWhole_end _ _ ends) h
        rw [skipAfterWhole_of_ne_point fun d hd => (ends d hd).2.1]
        exact skipNumberTail_chars none ends

/-- A number starts with a digit, and no digit follows a zero there. -/
theorem digit_of_readNumber {n : Number} {c : Char} (h : readNumber negative (c :: cs) = .ok (n, rest)) :
    c.isDigit ∧ (c = '0' → NoDigit cs) := by
  unfold readNumber at h
  split at h
  · cases h
  · rename_i d later same
    obtain ⟨rfl, rfl⟩ := List.cons.inj same
    split_ifs at h with isDigit
    exact ⟨rfl, fun _ => noDigit_cons (by simpa using isDigit)⟩
  · rename_i same
    obtain ⟨rfl, rfl⟩ := List.cons.inj same
    exact ⟨rfl, fun _ => ends_nil.noDigit⟩
  · rename_i first_zero zero same
    obtain ⟨rfl, rfl⟩ := List.cons.inj same
    split_ifs at h with isDigit
    refine ⟨isDigit, ?_⟩
    rintro rfl
    cases cs with
    | nil => exact (zero rfl rfl).elim
    | cons d later => exact (first_zero d later rfl rfl).elim

theorem skipNumber_of_readNumber {n : Number} (h : readNumber negative cs = .ok (n, rest)) :
    skipNumber cs = .ok rest := by
  cases cs with
  | nil => cases h
  | cons c cs =>
    obtain ⟨isDigit, zero⟩ := digit_of_readNumber h
    rw [readNumber_digit _ isDigit zero] at h
    rw [skipNumber_digit isDigit zero]
    exact skipAfterWhole_of_readWhole h

/-- What is read as a number is one. -/
theorem exists_unsigned_of_readNumber {n : Number} (h : readNumber negative cs = .ok (n, rest)) :
    ∃ l : NumberLiteral, l.negative = negative ∧ cs = l.unsigned ++ rest :=
  exists_unsigned_of_skipNumber (skipNumber_of_readNumber h) negative

/-! ### Values that are passed -/

theorem append_of_readWord {word : List Char} {x : Unit} (h : readWord word cs = .ok (x, rest)) : cs = word ++ rest := by
  induction word generalizing cs with
  | nil => exact congrArg Prod.snd (Except.ok.inj h)
  | cons c word ih =>
    cases cs with
    | nil => cases h
    | cons d cs =>
      rw [readWord] at h
      split_ifs at h with same
      rw [same, ih h]
      rfl

/-- A number with its sign. -/
theorem stands_number {c : Char} (first : c = '-' ∨ c.isDigit)
    (h : ∃ n : NumberLiteral, n.negative = (c == '-') ∧ (if c = '-' then cs else c :: cs) = n.unsigned ++ rest) :
    ∃ v, Stands (.value v) (c :: cs) rest := by
  obtain ⟨n, negative, chars⟩ := h
  have whole : c :: cs = n.chars ++ rest := by
    rcases first with rfl | isDigit
    · rw [NumberLiteral.chars, negative]
      simpa using chars
    · have ne : c ≠ '-' := ne_of_isDigit isDigit rfl
      rw [if_neg ne] at chars
      rw [NumberLiteral.chars, negative, beq_false_of_ne ne, chars]
      rfl
  exact ⟨.number n, whole ▸ .number n rest⟩

theorem stands_of_skipScalar {c : Char} (h : skipScalar c cs = .ok rest) : ∃ v, Stands (.value v) (c :: cs) rest := by
  have word {w : List Char} (h : (readWord w cs).map (·.2) = .ok rest) : cs = w ++ rest := by
    cases read : readWord w cs with
    | error e => rw [read] at h; cases h
    | ok r =>
      rw [read] at h
      obtain rfl := Except.ok.inj h
      exact append_of_readWord read
  unfold skipScalar at h
  split_ifs at h with null yes no minus isDigit text
  · exact ⟨.null, by rw [null, word h]; exact .null rest⟩
  · exact ⟨.bool true, by rw [yes, word h]; exact .yes rest⟩
  · exact ⟨.bool false, by rw [no, word h]; exact .no rest⟩
  · refine stands_number (.inl minus) ?_
    rw [if_pos minus]
    exact exists_unsigned_of_skipNumber h _
  · refine stands_number (.inr isDigit) ?_
    rw [if_neg minus]
    exact exists_unsigned_of_skipNumber h _
  · obtain ⟨t, chars⟩ := exists_chars_of_skipText h
    exact ⟨.text t, by rw [text, chars]; exact .text t rest⟩

namespace Frame

/-- An item, or a member. -/
def Entry (frame : Frame) (cs rest : List Char) : Prop :=
  match frame with
  | .list => ∃ v, Stands (.value v) (skipBlank cs) rest
  | .object => ∃ m, Stands (.member m) cs rest

/-- What follows an entry, to the end of the frame. -/
def More (frame : Frame) (cs rest : List Char) : Prop :=
  match frame with
  | .list => ∃ vs, Stands (.moreItems vs) cs rest
  | .object => ∃ ms, Stands (.moreMembers ms) cs rest

/-- What follows the opening, to the end of the frame. -/
def Inside (frame : Frame) (cs rest : List Char) : Prop :=
  match frame with
  | .list => ∃ vs, Stands (.items vs) cs rest
  | .object => ∃ ms, Stands (.members ms) cs rest

variable {frame : Frame} {mid later : List Char}

theorem more_of_close (closes : skipBlank cs = frame.close :: rest) : frame.More cs rest := by
  cases frame with
  | list => exact ⟨[], .lastItem closes⟩
  | object => exact ⟨[], .lastMember closes⟩

theorem inside_of_close (closes : skipBlank cs = frame.close :: rest) : frame.Inside cs rest := by
  cases frame with
  | list => exact ⟨[], .noItems closes⟩
  | object => exact ⟨[], .noMembers closes⟩

theorem Entry.inside (first : frame.Entry cs mid) (more : frame.More mid rest) : frame.Inside cs rest := by
  cases frame with
  | list =>
    obtain ⟨v, first⟩ := first
    obtain ⟨vs, more⟩ := more
    exact ⟨v :: vs, .items first more⟩
  | object =>
    obtain ⟨m, first⟩ := first
    obtain ⟨ms, more⟩ := more
    exact ⟨m :: ms, .members first more⟩

theorem Entry.more (comma : skipBlank cs = ',' :: later) (first : frame.Entry later mid) (more : frame.More mid rest) :
    frame.More cs rest := by
  cases frame with
  | list =>
    obtain ⟨v, first⟩ := first
    obtain ⟨vs, more⟩ := more
    exact ⟨v :: vs, .nextItem comma (.items first more)⟩
  | object =>
    obtain ⟨m, first⟩ := first
    obtain ⟨ms, more⟩ := more
    exact ⟨m :: ms, .nextMember comma (.members first more)⟩

theorem Entry.of_skipBlank (first : frame.Entry (skipBlank cs) rest) : frame.Entry cs rest := by
  cases frame with
  | list =>
    obtain ⟨v, first⟩ := first
    rw [skipBlank_skipBlank] at first
    exact ⟨v, first⟩
  | object =>
    obtain ⟨m, first⟩ := first
    cases first with
    | member name colon value =>
      rw [skipBlank_skipBlank] at name
      exact ⟨_, .member name colon value⟩

end Frame

/-- All that follows up to the end of the outermost of the open frames. -/
inductive Closes : List Frame → List Char → List Char → Prop where
  | all (rest : List Char) : Closes [] rest rest
  | next {frame : Frame} {stack : List Frame} {cs mid rest : List Char} (more : frame.More cs mid)
      (outer : Closes stack mid rest) : Closes (frame :: stack) cs rest

theorem exists_colon_of_skipKey (h : skipKey cs = .ok rest) :
    ∃ (t : TextLiteral) (mid : List Char), skipBlank cs = '"' :: (t.chars ++ '"' :: mid) ∧
      skipBlank mid = ':' :: rest := by
  unfold skipKey at h
  split at h
  · cases h
  · rename_i later front
    split at h
    · cases h
    · rename_i mid passed
      obtain ⟨t, chars⟩ := exists_chars_of_skipText passed
      split at h
      · rename_i colon
        cases h
        exact ⟨t, mid, by rw [front, chars], colon⟩
      · cases h
      · cases h
  · cases h

theorem closes_of_resume {fuel : Nat} {stack : List Frame} {mid : List Char}
    (after : ∀ frame stack cs, skipAfter fuel frame stack true cs = .ok rest → Closes (frame :: stack) cs rest)
    (h : resume fuel stack mid = .ok rest) : Closes stack mid rest := by
  cases stack with
  | nil =>
    obtain rfl := Except.ok.inj h
    exact .all mid
  | cons frame stack => exact after frame stack mid h

section Steps

variable {fuel : Nat} {frame : Frame} {stack : List Frame}

theorem skipItem_cases (h : skipItem (fuel + 1) stack cs = .ok rest) :
    (∃ later, skipBlank cs = '[' :: later ∧ skipAfter fuel .list stack false later = .ok rest) ∨
      (∃ later, skipBlank cs = '\x7b' :: later ∧ skipAfter fuel .object stack false later = .ok rest) ∨
      ∃ c later mid, skipBlank cs = c :: later ∧ skipScalar c later = .ok mid ∧ resume fuel stack mid = .ok rest := by
  rw [skipItem] at h
  split at h
  · cases h
  · rename_i c later front
    split_ifs at h with list object
    · exact .inl ⟨later, list ▸ front, h⟩
    · exact .inr (.inl ⟨later, object ▸ front, h⟩)
    · split at h
      · cases h
      · rename_i mid scalar
        refine .inr (.inr ⟨c, later, mid, front, scalar, ?_⟩)
        rw [← h]
        cases stack <;> rfl

theorem skipAfter_cases {comma : Bool} (h : skipAfter (fuel + 1) frame stack comma cs = .ok rest) :
    (comma = true ∧ ∃ later, skipBlank cs = ',' :: later ∧ skipEntry fuel frame stack later = .ok rest) ∨
      (∃ later, skipBlank cs = frame.close :: later ∧ resume fuel stack later = .ok rest) ∨
      (comma = false ∧ skipEntry fuel frame stack (skipBlank cs) = .ok rest) := by
  unfold skipAfter at h
  split at h
  · cases h
  · rename_i c later front
    split at h
    · rename_i isComma
      exact .inl ⟨isComma.2, later, isComma.1 ▸ front, h⟩
    · split at h
      · rename_i close
        refine .inr (.inl ⟨later, close ▸ front, ?_⟩)
        rw [← h]
        cases stack <;> rfl
      · split at h
        · cases h
        · rename_i first
          exact .inr (.inr ⟨by simpa using first, front ▸ h⟩)

theorem skipEntry_cases (h : skipEntry (fuel + 1) frame stack cs = .ok rest) :
    (frame = .list ∧ skipItem fuel (.list :: stack) cs = .ok rest) ∨
      (frame = .object ∧ ∃ later, skipKey cs = .ok later ∧ skipItem fuel (.object :: stack) later = .ok rest) := by
  unfold skipEntry at h
  cases frame with
  | list => exact .inl ⟨rfl, h⟩
  | object =>
    dsimp only at h
    split at h
    · cases h
    · exact .inr ⟨rfl, _, ‹_›, h⟩

end Steps

/-- Whatever is passed, inside of the open frames, is a value and what closes them. One induction on the fuel for the three
functions, since each calls the next with less. -/
theorem passing_accepted (fuel : Nat) :
    (∀ stack cs, skipItem fuel stack cs = .ok rest →
      ∃ v mid, Stands (.value v) (skipBlank cs) mid ∧ Closes stack mid rest) ∧
    (∀ frame stack cs, skipAfter fuel frame stack true cs = .ok rest → Closes (frame :: stack) cs rest) ∧
    (∀ frame stack cs, skipAfter fuel frame stack false cs = .ok rest →
      ∃ mid, frame.Inside cs mid ∧ Closes stack mid rest) ∧
    ∀ frame stack cs, skipEntry fuel frame stack cs = .ok rest →
      ∃ mid, frame.Entry cs mid ∧ Closes (frame :: stack) mid rest := by
  induction fuel with
  | zero => simp [skipItem, skipAfter, skipEntry]
  | succ fuel ih =>
    obtain ⟨item, after, opening, entry⟩ := ih
    refine ⟨fun stack cs h => ?_, fun frame stack cs h => ?_, fun frame stack cs h => ?_, fun frame stack cs h => ?_⟩
    · rcases skipItem_cases h with ⟨later, front, h⟩ | ⟨later, front, h⟩ | ⟨c, later, mid, front, scalar, h⟩
      · obtain ⟨mid, ⟨vs, inside⟩, closes⟩ := opening _ _ _ h
        exact ⟨.list vs, mid, front ▸ .list inside, closes⟩
      · obtain ⟨mid, ⟨ms, inside⟩, closes⟩ := opening _ _ _ h
        exact ⟨.object ms, mid, front ▸ .object inside, closes⟩
      · obtain ⟨v, value⟩ := stands_of_skipScalar scalar
        exact ⟨v, mid, front ▸ value, closes_of_resume after h⟩
    · rcases skipAfter_cases h with ⟨-, later, comma, h⟩ | ⟨later, close, h⟩ | ⟨other, -⟩
      -- Behind a comma the frame stays open: the entry and what closes the frame are put together.
      · obtain ⟨mid, first, closes⟩ := entry _ _ _ h
        cases closes with
        | next more outer => exact .next (first.more comma more) outer
      · exact .next (Frame.more_of_close close) (closes_of_resume after h)
      · cases other
    · rcases skipAfter_cases h with ⟨other, -⟩ | ⟨later, close, h⟩ | ⟨-, h⟩
      · cases other
      · exact ⟨later, Frame.inside_of_close close, closes_of_resume after h⟩
      · obtain ⟨mid, first, closes⟩ := entry _ _ _ h
        cases closes with
        | next more outer => exact ⟨_, first.of_skipBlank.inside more, outer⟩
    · rcases skipEntry_cases h with ⟨rfl, h⟩ | ⟨rfl, later, passed, h⟩
      · obtain ⟨v, mid, value, closes⟩ := item _ _ h
        exact ⟨mid, ⟨v, value⟩, closes⟩
      · obtain ⟨t, behind, name, colon⟩ := exists_colon_of_skipKey passed
        obtain ⟨v, mid, value, closes⟩ := item _ _ h
        exact ⟨mid, ⟨(t, v), .member name colon value⟩, closes⟩

theorem stands_of_skipValue (h : skipValue cs = .ok rest) : ∃ v, Stands (.value v) (skipBlank cs) rest := by
  obtain ⟨v, mid, value, closes⟩ := (passing_accepted _).1 [] cs h
  cases closes with
  | all => exact ⟨v, value⟩

/-! ### Records that are read -/

theorem stands_of_readTextValue {x : FieldValue} (h : readTextValue u cs = .ok (x, rest)) :
    ∃ v, Stands (.value v) (skipBlank cs) rest := by
  unfold readTextValue at h
  split at h
  · cases h
  · rename_i c later front
    split_ifs at h with quote
    split at h
    · cases h
    · rename_i y mid read
      cases h
      obtain ⟨t, chars, -⟩ := exists_chars_of_readText read
      exact ⟨.text t, by rw [front, quote, chars]; exact .text t rest⟩

theorem stands_of_readWordValue {x : FieldValue} (h : readWordValue u cs = .ok (x, rest)) :
    ∃ v, Stands (.value v) (skipBlank cs) rest := by
  have read {result : Except Fault (Number × List Char)}
      (h : (result.bind fun m => (wordOfNumber m.1).map fun x => (x, m.2)) = .ok (x, rest)) :
      ∃ n, result = .ok (n, rest) := by
    cases result with
    | error => cases h
    | ok m =>
      cases word : wordOfNumber m.1 <;> simp only [Except.bind, Except.map, word] at h <;> cases h
      exact ⟨m.1, rfl⟩
  cases front : skipBlank cs with
  | nil =>
    rw [readWordValue, front] at h
    cases h
  | cons c later =>
    by_cases minus : c = '-'
    · subst minus
      obtain ⟨n, h⟩ := read (readWordValue_minus front ▸ h)
      refine stands_number (.inl rfl) ?_
      rw [if_pos rfl]
      exact exists_unsigned_of_readNumber h
    · by_cases isDigit : c.isDigit
      · obtain ⟨n, h⟩ := read (readWordValue_digit isDigit front ▸ h)
        refine stands_number (.inr isDigit) ?_
        rw [if_neg minus, beq_false_of_ne minus]
        exact exists_unsigned_of_readNumber h
      · simp only [readWordValue, front, if_neg minus, if_neg isDigit] at h
        cases h

theorem stands_of_readOptional {read : Reader FieldValue} {x : FieldValue} (h : readOptional read cs = .ok (x, rest))
    (other : read (skipBlank cs) = .ok (x, rest) → ∃ v, Stands (.value v) (skipBlank (skipBlank cs)) rest) :
    ∃ v, Stands (.value v) (skipBlank cs) rest := by
  rw [skipBlank_skipBlank] at other
  unfold readOptional at h
  split at h
  · rename_i later front
    split at h
    · cases h
    · rename_i word
      cases h
      exact ⟨.null, by rw [front, append_of_readWord word]; exact .null rest⟩
  · exact other h

theorem stands_of_readField {kind : FieldKind} {x : FieldValue} (h : readField u kind cs = .ok (x, rest)) :
    ∃ v, Stands (.value v) (skipBlank cs) rest := by
  cases kind with
  | text => exact stands_of_readTextValue h
  | optionalText => exact stands_of_readOptional h stands_of_readTextValue
  | optionalWord => exact stands_of_readOptional h stands_of_readWordValue

theorem readColon_ok (h : readColon cs = .ok rest) : skipBlank cs = ':' :: rest := by
  unfold readColon at h
  split at h
  · cases h
    assumption
  · cases h
  · cases h

theorem stands_of_readMember {after : Record} {later : List Char} (front : skipBlank later = '"' :: cs)
    (h : readMember u s seen cs = .ok (after, rest)) : ∃ m, Stands (.member m) later rest := by
  unfold readMember at h
  split at h
  · cases h
  · rename_i key mid read
    obtain ⟨t, chars, -⟩ := exists_chars_of_readText read
    have name : skipBlank later = '"' :: (t.chars ++ '"' :: mid) := by rw [front, chars]
    split at h
    · split_ifs at h
      split at h
      · cases h
      · rename_i behind colon
        split at h
        · cases h
        · rename_i field
          cases h
          obtain ⟨v, value⟩ := stands_of_readField field
          exact ⟨(t, v), .member name (readColon_ok colon) value⟩
    · split at h
      · cases h
      · rename_i behind colon
        split at h
        · cases h
        · rename_i passed
          cases h
          obtain ⟨v, value⟩ := stands_of_skipValue passed
          exact ⟨(t, v), .member name (readColon_ok colon) value⟩

/-- All that a reader of members can do. -/
theorem readMembers_cases {fuel : Nat} {first : Bool} (h : readMembers u s (fuel + 1) first seen cs = .ok (r, rest)) :
    skipBlank cs = '\x7d' :: rest ∨
      ∃ front later after mid, skipBlank front = '"' :: later ∧
        (first = true ∧ front = cs ∨ first = false ∧ skipBlank cs = ',' :: front) ∧
        readMember u s seen later = .ok (after, mid) ∧ readMembers u s fuel false after mid = .ok (r, rest) := by
  unfold readMembers at h
  dsimp only at h
  split at h
  · cases h
  · rename_i c later front
    split_ifs at h with close isFirst quote comma
    · cases h
      exact .inl (close ▸ front)
    · split at h
      · cases h
      · rename_i member
        exact .inr ⟨cs, later, _, _, quote ▸ front, .inl ⟨isFirst, rfl⟩, member, h⟩
    · split at h
      · cases h
      · rename_i d behind name
        split_ifs at h with quote
        split at h
        · cases h
        · rename_i member
          exact .inr ⟨later, behind, _, _, quote ▸ name, .inr ⟨by simpa using isFirst, comma ▸ front⟩, member, h⟩

theorem stands_of_readMembers {fuel : Nat} {first : Bool} (h : readMembers u s fuel first seen cs = .ok (r, rest)) :
    ∃ ms, Stands (if first then .members ms else .moreMembers ms) cs rest := by
  induction fuel generalizing first seen cs with
  | zero => cases h
  | succ fuel ih =>
    rcases readMembers_cases h with close | ⟨front, later, after, mid, name, place, member, h⟩
    · cases first with
      | true => exact ⟨[], .noMembers close⟩
      | false => exact ⟨[], .lastMember close⟩
    · obtain ⟨m, member⟩ := stands_of_readMember name member
      obtain ⟨ms, more⟩ := ih h
      rcases place with ⟨rfl, rfl⟩ | ⟨rfl, comma⟩
      · exact ⟨m :: ms, .members member more⟩
      · exact ⟨m :: ms, .nextMember comma (.members member more)⟩

theorem nextElement_true {first : Bool} (h : nextElement first cs = .ok (true, rest)) :
    (first = true ∧ rest = skipBlank cs) ∨ first = false ∧ ∃ mid, skipBlank cs = ',' :: mid ∧ rest = skipBlank mid := by
  unfold nextElement at h
  split at h
  · cases h
  · rename_i c later front
    split_ifs at h with close isFirst comma
    · cases h
    · cases h
      exact .inl ⟨isFirst, front.symm⟩
    · split at h
      · cases h
      · rename_i d behind item
        split_ifs at h
        cases h
        exact .inr ⟨by simpa using isFirst, later, comma ▸ front, item.symm⟩

theorem nextElement_false {first : Bool} (h : nextElement first cs = .ok (false, rest)) :
    ∃ later, skipBlank cs = ']' :: later := by
  unfold nextElement at h
  split at h
  · cases h
  · rename_i c later front
    split_ifs at h with close isFirst comma
    · exact ⟨later, close ▸ front⟩
    · cases h
    · split at h
      · cases h
      · split_ifs at h
        cases h

theorem close_of_endList (h : endList cs = .ok rest) : skipBlank cs = ']' :: rest := by
  unfold endList at h
  split at h
  · cases h
  · rename_i c later front
    split_ifs at h with close comma
    · cases h
      exact close ▸ front
    · split at h <;> cases h

/-- All that a reader of a list can do where a field is left to be filled. -/
theorem readList_cases {f : Field} {fields : List Field} {index : Nat}
    (h : readList u s (f :: fields) index seen cs = .ok (r, rest)) :
    skipBlank cs = ']' :: rest ∨
      ∃ front x mid, nextElement (index == 0) cs = .ok (true, front) ∧ readField u f.kind front = .ok (x, mid) ∧
        readList u s fields (index + 1) ((f.name, x) :: seen) mid = .ok (r, rest) := by
  cases next : nextElement (index == 0) cs with
  | error e => simp [readList, readElements, next] at h
  | ok found =>
    obtain ⟨there, front⟩ := found
    cases there with
    | false =>
      obtain ⟨later, close⟩ := nextElement_false next
      rw [readList_close close] at h
      cases elements : Value.elements u s (f :: fields) index seen [] with
      | error e => rw [elements] at h; cases h
      | ok after =>
        rw [elements] at h
        cases h
        exact .inl close
    | true =>
      cases field : readField u f.kind front with
      | error e => simp [readList, readElements, next, field] at h
      | ok read =>
        obtain ⟨x, mid⟩ := read
        refine .inr ⟨front, x, mid, rfl, field, ?_⟩
        rw [← h]
        simp only [readList, readElements, next, field]

theorem stands_of_close {index : Nat} (close : skipBlank cs = ']' :: rest) :
    Stands (if index = 0 then .items [] else .moreItems []) cs rest := by
  split_ifs
  · exact .noItems close
  · exact .lastItem close

theorem stands_of_readList {fields : List Field} {index : Nat} (h : readList u s fields index seen cs = .ok (r, rest)) :
    ∃ vs, Stands (if index = 0 then .items vs else .moreItems vs) cs rest := by
  induction fields generalizing index seen cs with
  | nil =>
    unfold readList readElements at h
    dsimp only at h
    split at h
    · cases h
    · rename_i ending
      cases h
      exact ⟨[], stands_of_close (close_of_endList ending)⟩
  | cons f fields ih =>
    rcases readList_cases h with close | ⟨front, x, mid, next, field, later⟩
    · exact ⟨[], stands_of_close close⟩
    · obtain ⟨v, value⟩ := stands_of_readField field
      obtain ⟨vs, more⟩ := ih later
      refine ⟨v :: vs, ?_⟩
      rcases nextElement_true next with ⟨first, rfl⟩ | ⟨notFirst, behind, comma, rfl⟩
      · rw [skipBlank_skipBlank] at value
        rw [if_pos (by simpa using first)]
        exact .items value more
      · rw [skipBlank_skipBlank] at value
        rw [if_neg (by simpa using notFirst)]
        exact .nextItem comma (.items value more)

theorem stands_of_readRecord (h : readRecord u s cs = .ok (r, rest)) : ∃ v, Stands (.value v) (skipBlank cs) rest := by
  unfold readRecord at h
  split at h
  · cases h
  · rename_i c later front
    rw [front]
    split_ifs at h with list object
    · have read : readList u s s.fields 0 [] later = .ok (r, rest) := h
      obtain ⟨vs, inside⟩ := stands_of_readList read
      exact ⟨.list vs, list ▸ .list inside⟩
    · split at h
      · cases h
      · rename_i read
        obtain ⟨ms, inside⟩ := stands_of_readMembers read
        split at h <;> cases h
        exact ⟨.object ms, object ▸ .object inside⟩

/-- A text gives a record exactly if it is a document, and its tree gives the record. -/
theorem record_eq_ok_iff : record u s cs = .ok r ↔ ∃ v, Document cs v ∧ v.record u s = .ok r := by
  refine ⟨fun h => ?_, fun ⟨v, document, h⟩ => (record_of_document document).trans h⟩
  have document : ∃ v, Document cs v := by
    unfold record at h
    split at h
    · cases h
    · rename_i rest read
      split_ifs at h with blank
      obtain ⟨v, value⟩ := stands_of_readRecord read
      exact ⟨v, rest, value, List.isEmpty_iff.mp blank⟩
  obtain ⟨v, document⟩ := document
  exact ⟨v, document, (record_of_document document).symm.trans h⟩

end IdentityClient.Json
