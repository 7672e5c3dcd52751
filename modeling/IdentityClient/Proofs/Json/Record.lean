import IdentityClient.Proofs.Json.Skip

/-!
# Records of trees

The record that a schema takes out of a tree, and the fault of a tree that holds none, said on the tree
(`Value.record`). Reading a document gives exactly that (`record_of_document`).
-/

namespace IdentityClient.Json

variable {u : Units} {s : Schema} {cs mid rest : List Char} {v : Value} {seen : Record}

namespace Value

/-- The fault of a value that should have been something else. A text or a number may have a fault of its own. -/
def kindFault (u : Units) (expected : String) : Value → Fault
  | .null => .wrongKind .null expected
  | .bool b => .wrongKind (.bool b) expected
  | .number n =>
    match n.read with
    | .error e => e
    | .ok m => .wrongKind m.found expected
  | .text t =>
    match t.read u with
    | .error e => e
    | .ok s => .wrongKind (.text s) expected
  | .list _ => .wrongKind .list expected
  | .object _ => .wrongKind .object expected

/-- What a value gives for a field. -/
def field (u : Units) : FieldKind → Value → Except Fault FieldValue
  | .text, .text t => (t.read u).map .text
  | .optionalText, .text t => (t.read u).map .text
  | .optionalText, .null => .ok .absent
  | .optionalWord, .null => .ok .absent
  | .optionalWord, .number n => n.read.bind wordOfNumber
  | .optionalWord, v => .error (v.kindFault u "u64")
  | _, v => .error (v.kindFault u "a string")

/-- Takes one member into the fields that were read before it. -/
def member (u : Units) (s : Schema) (seen : Record) (m : TextLiteral × Value) : Except Fault Record :=
  match m.1.read u with
  | .error e => .error e
  | .ok key =>
    match s.fields.find? (·.name == key) with
    | some f =>
      if (seen.lookup key).isSome then .error (.duplicateField key)
      else (m.2.field u f.kind).map fun x => (key, x) :: seen
    | none => .ok seen

def members (u : Units) (s : Schema) : Record → List (TextLiteral × Value) → Except Fault Record
  | seen, [] => .ok seen
  | seen, m :: ms =>
    match member u s seen m with
    | .error e => .error e
    | .ok seen => members u s seen ms

/-- Takes the fields in order from the items of a list; nothing may be left over. -/
def elements (u : Units) (s : Schema) : List Field → (index : Nat) → Record → List Value → Except Fault Record
  | [], _, seen, [] => .ok seen
  | [], _, _, _ :: _ => .error .trailingText
  | f :: fields, index, seen, [] =>
    if f.kind = .text then .error (.wrongLength index s.expectedList)
    else elements u s fields (index + 1) ((f.name, .absent) :: seen) []
  | f :: fields, index, seen, v :: vs =>
    match v.field u f.kind with
    | .error e => .error e
    | .ok x => elements u s fields (index + 1) ((f.name, x) :: seen) vs

def record (u : Units) (s : Schema) : Value → Except Fault Record
  | .list vs => elements u s s.fields 0 [] vs
  | .object ms =>
    match members u s [] ms with
    | .error e => .error e
    | .ok seen =>
      match missing? s seen with
      | some name => .error (.missingField name)
      | none => .ok seen
  | v => .error (v.kindFault u s.expected)

end Value

/-! ### Fields -/

theorem wrongKind_digit {c : Char} (isDigit : c.isDigit) (expected : String) : wrongKind u expected (c :: cs) =
    match readNumber false (c :: cs) with
    | .error e => e
    | .ok (n, _) => .wrongKind n.found expected := by
  have ne {d : Char} : d.isDigit = false → c ≠ d := ne_of_isDigit isDigit
  simp only [wrongKind]
  rw [if_neg (ne rfl), if_neg (ne rfl), if_neg (ne rfl), if_neg (ne rfl), if_pos isDigit]
  cases readNumber false (c :: cs) <;> rfl

/-- A number in front is read after its sign. -/
theorem NumberLiteral.front (n : NumberLiteral) (rest : List Char) :
    (n.negative = true ∧ n.chars ++ rest = '-' :: (n.unsigned ++ rest)) ∨
      n.negative = false ∧ ∃ c cs, n.chars ++ rest = c :: cs ∧ c.isDigit ∧ n.unsigned ++ rest = c :: cs := by
  obtain ⟨c, ds, chars, isDigit, -⟩ := n.whole.exists_cons
  unfold NumberLiteral.chars
  cases n.negative with
  | true => exact .inl ⟨rfl, rfl⟩
  | false =>
    rw [if_neg Bool.false_ne_true, NumberLiteral.unsigned, chars]
    exact .inr ⟨rfl, c, _, rfl, isDigit, rfl⟩

theorem wrongKind_of_stands (h : Stands (.value v) cs rest) (ends : Ends rest) (expected : String) :
    wrongKind u expected cs = v.kindFault u expected := by
  cases h with
  | null | yes | no | list | object => rfl
  | text t =>
    have read := readText_chars (u := u) t rest
    cases text : t.read u <;> rw [text] at read <;> simp [wrongKind, read, text, Value.kindFault, Except.map]
  | number n =>
    have read := readNumber_unsigned n ends
    rcases n.front rest with ⟨negative, front⟩ | ⟨negative, c, cs, front, isDigit, unsigned⟩
    · rw [negative] at read
      rw [front]
      cases number : n.read <;> rw [number] at read <;> simp [wrongKind, read, number, Value.kindFault, Except.map]
    · rw [negative, unsigned] at read
      rw [front, wrongKind_digit isDigit, read, Value.kindFault]
      cases n.read <;> rfl

theorem readTextValue_of_stands (h : Stands (.value v) (skipBlank cs) rest) (ends : Ends rest) :
    readTextValue u cs = (v.field u .text).map fun x => (x, rest) := by
  generalize front : skipBlank cs = ds at h
  have wrong := wrongKind_of_stands (u := u) h ends "a string"
  cases h with
  | null | yes | no | list | object => simp [readTextValue, front, wrong, Value.field, Except.map]
  | text t =>
    simp only [readTextValue, front, readText_chars, Value.field]
    cases t.read u <;> rfl
  | number n =>
    rcases n.front rest with ⟨-, front'⟩ | ⟨-, c, cs, front', isDigit, -⟩
    · rw [front'] at front wrong
      simp [readTextValue, front, wrong, Value.field, Except.map]
    · rw [front'] at front wrong
      have ne : c ≠ '"' := ne_of_isDigit isDigit rfl
      simp [readTextValue, front, wrong, ne, Value.field, Except.map]

theorem readWordValue_minus (front : skipBlank cs = '-' :: mid) : readWordValue u cs =
    (readNumber true mid).bind fun m => (wordOfNumber m.1).map fun x => (x, m.2) := by
  simp only [readWordValue, front, if_true]
  cases readNumber true mid with
  | error e => rfl
  | ok m => cases h : wordOfNumber m.1 <;> simp [Except.map, Except.bind, h]

theorem readWordValue_digit {c : Char} (isDigit : c.isDigit) (front : skipBlank cs = c :: mid) : readWordValue u cs =
    (readNumber false (c :: mid)).bind fun m => (wordOfNumber m.1).map fun x => (x, m.2) := by
  have ne : c ≠ '-' := ne_of_isDigit isDigit rfl
  simp only [readWordValue, front, if_neg ne, if_pos isDigit]
  cases readNumber false (c :: mid) with
  | error e => rfl
  | ok m => cases h : wordOfNumber m.1 <;> simp [Except.map, Except.bind, h]

theorem readWordValue_of_stands (h : Stands (.value v) (skipBlank cs) rest) (ends : Ends rest) (there : v ≠ .null) :
    readWordValue u cs = (v.field u .optionalWord).map fun x => (x, rest) := by
  generalize front : skipBlank cs = ds at h
  have wrong := wrongKind_of_stands (u := u) h ends "u64"
  cases h with
  | null => exact absurd rfl there
  | yes | no | list | object | text => simp [readWordValue, front, wrong, Value.field, Except.map]
  | number n =>
    have read := readNumber_unsigned n ends
    have finish : (n.read.map fun m => (m, rest)).bind (fun m => (wordOfNumber m.1).map fun x => (x, m.2)) =
        ((Value.number n).field u .optionalWord).map fun x => (x, rest) := by
      rw [Value.field]
      cases n.read with
      | error e => rfl
      | ok m => cases h : wordOfNumber m <;> simp [Except.map, Except.bind, h]
    rw [← finish]
    rcases n.front rest with ⟨negative, front'⟩ | ⟨negative, c, cs, front', isDigit, unsigned⟩
    · rw [negative] at read
      rw [readWordValue_minus (front.trans front'), read]
    · rw [negative, unsigned] at read
      rw [readWordValue_digit isDigit (front.trans front'), read]

/-- Only `null` starts with its first letter. -/
theorem Stands.ne_n (h : Stands (.value v) cs rest) (there : v ≠ .null) : ∀ ds, cs ≠ 'n' :: ds := by
  rintro ds rfl
  generalize front : 'n' :: ds = cs at h
  cases h with
  | null => exact there rfl
  | yes | no | text | list | object => cases front
  | number n =>
    rcases n.front rest with ⟨-, front'⟩ | ⟨-, c, cs, front', isDigit, -⟩
    · cases front.trans front'
    · cases front.trans front'
      cases isDigit

theorem readOptional_of_stands {read : Reader FieldValue} (h : Stands (.value v) (skipBlank cs) rest)
    (there : v ≠ .null) : readOptional read cs = read (skipBlank cs) := by
  unfold readOptional
  split
  · rename_i later front
    exact absurd front (h.ne_n there later)
  · rfl

theorem readOptional_null {read : Reader FieldValue} (h : Stands (.value .null) (skipBlank cs) rest) :
    readOptional read cs = .ok (.absent, rest) := by
  generalize front : skipBlank cs = ds at h
  cases h with
  | null => simp [readOptional, front, readWord]

theorem readField_of_stands (h : Stands (.value v) (skipBlank cs) rest) (ends : Ends rest) (kind : FieldKind) :
    readField u kind cs = (v.field u kind).map fun x => (x, rest) := by
  have behind : Stands (.value v) (skipBlank (skipBlank cs)) rest := by rwa [skipBlank_skipBlank]
  by_cases there : v = .null
  · subst there
    cases kind with
    | text => exact readTextValue_of_stands h ends
    | optionalText | optionalWord => exact readOptional_null h
  · cases kind with
    | text => exact readTextValue_of_stands h ends
    | optionalText =>
      have same : v.field u .optionalText = v.field u .text := by
        cases v with
        | null => exact absurd rfl there
        | bool | number | text | list | object => rfl
      rw [same, ← readTextValue_of_stands behind ends]
      exact readOptional_of_stands h there
    | optionalWord =>
      rw [← readWordValue_of_stands behind ends there]
      exact readOptional_of_stands h there

/-! ### Objects -/

theorem readColon_eq (colon : skipBlank cs = ':' :: rest) : readColon cs = .ok rest := by
  simp [readColon, colon]

theorem readMember_of_stands {t : TextLiteral} {later : List Char} (colon : skipBlank mid = ':' :: later)
    (value : Stands (.value v) (skipBlank later) rest) (ends : Ends rest) :
    readMember u s seen (t.chars ++ '"' :: mid) = (Value.member u s seen (t, v)).map fun seen => (seen, rest) := by
  simp only [readMember, Value.member, readText_chars]
  cases t.read u with
  | error e => rfl
  | ok key =>
    simp only [Except.map, readColon_eq colon]
    cases s.fields.find? (·.name == key) with
    | none => simp only [skipValue_of_stands value ends]
    | some f =>
      simp only [readField_of_stands value ends]
      split
      · rfl
      · cases v.field u f.kind <;> rfl

theorem readMembers_close {fuel : Nat} {first : Bool} (closes : skipBlank cs = '\x7d' :: rest) :
    readMembers u s (fuel + 1) first seen cs = .ok (seen, rest) := by
  simp [readMembers, closes]

theorem readMembers_first {fuel : Nat} (name : skipBlank cs = '"' :: rest) :
    readMembers u s (fuel + 1) true seen cs = (readMember u s seen rest).bind fun r =>
      readMembers u s fuel false r.1 r.2 := by
  simp only [readMembers, name]
  cases readMember u s seen rest <;> rfl

theorem readMembers_next {fuel : Nat} (comma : skipBlank cs = ',' :: mid) (name : skipBlank mid = '"' :: rest) :
    readMembers u s (fuel + 1) false seen cs = readMembers u s (fuel + 1) true seen mid := by
  simp [readMembers, comma, name]

theorem readMembers_of_stands {ms : List (TextLiteral × Value)} (h : Stands (.members ms) cs rest) {fuel : Nat}
    (enough : cs.length < fuel) :
    readMembers u s fuel true seen cs = (Value.members u s seen ms).map fun seen => (seen, rest) := by
  induction ms generalizing cs fuel seen with
  | nil =>
    obtain ⟨fuel, rfl⟩ := Nat.exists_eq_add_one_of_ne_zero (Nat.ne_zero_of_lt enough)
    cases h with
    | noMembers closes => exact readMembers_close closes
  | cons m ms ih =>
    obtain ⟨fuel, rfl⟩ := Nat.exists_eq_add_one_of_ne_zero (Nat.ne_zero_of_lt enough)
    cases h with
    | @members _ _ _ mid _ first later =>
      have shorter := first.length_lt
      have behind := later.length_lt
      obtain ⟨fuel, rfl⟩ := Nat.exists_eq_add_one_of_ne_zero (show fuel ≠ 0 by omega)
      cases first with
      | @member t v _ colon_at _ _ name colon value =>
        rw [readMembers_first name, readMember_of_stands colon value later.ends_members, Value.members]
        cases Value.member u s seen (t, v) with
        | error e => rfl
        | ok seen =>
          show readMembers u s (fuel + 1) false seen mid = _
          cases later with
          | lastMember closes => exact readMembers_close closes
          | @nextMember m ms _ behind_comma _ comma later =>
            have shorter' := length_lt_of_skipBlank comma
            rw [← ih later (show behind_comma.length < fuel + 1 by omega)]
            cases later with
            | members next =>
              cases next with
              | member name => exact readMembers_next comma name

/-! ### Lists -/

/-- The fields in order from what is left of a list, and its end. -/
def readList (u : Units) (s : Schema) (fields : List Field) (index : Nat) (seen : Record) : Reader Record := fun cs =>
  match readElements u s fields index seen cs with
  | .error e => .error e
  | .ok (seen, rest) =>
    match endList rest with
    | .error e => .error e
    | .ok rest => .ok (seen, rest)

section Lists

variable {f : Field} {fields : List Field} {vs : List Value} {index : Nat}

theorem nextElement_close {first : Bool} (closes : skipBlank cs = ']' :: rest) :
    nextElement first cs = .ok (false, ']' :: rest) := by
  simp [nextElement, closes]

theorem nextElement_first (first : Stands (.value v) (skipBlank cs) rest) :
    nextElement true cs = .ok (true, skipBlank cs) := by
  obtain ⟨c, ds, front, -, -, open_, -⟩ := first.exists_cons
  simp [nextElement, front, open_]

theorem nextElement_comma (comma : skipBlank cs = ',' :: mid) (first : Stands (.value v) (skipBlank mid) rest) :
    nextElement false cs = .ok (true, skipBlank mid) := by
  obtain ⟨c, ds, front, -, -, open_, -⟩ := first.exists_cons
  simp [nextElement, comma, front, open_]

theorem readList_close (closes : skipBlank cs = ']' :: rest) :
    readList u s fields index seen cs = (Value.elements u s fields index seen []).map fun seen => (seen, rest) := by
  induction fields generalizing index seen cs with
  | nil => simp [readList, readElements, endList, closes, Value.elements, Except.map]
  | cons f fields ih =>
    have behind : skipBlank (']' :: rest) = ']' :: rest := skipBlank_of_head rfl
    simp only [readList, readElements, nextElement_close closes, Value.elements]
    split_ifs
    · rfl
    · exact ih behind

theorem readList_item {front : List Char} (next : nextElement (index == 0) cs = .ok (true, front))
    (first : Stands (.value v) (skipBlank front) mid) (ends : Ends mid) :
    readList u s (f :: fields) index seen cs =
      (v.field u f.kind).bind fun x => readList u s fields (index + 1) ((f.name, x) :: seen) mid := by
  simp only [readList, readElements, next, readField_of_stands first ends]
  cases v.field u f.kind <;> rfl

/-- Something stands where the list should have ended. -/
theorem readList_trailing (first : Stands (.value v) (skipBlank cs) rest) :
    readList u s [] index seen cs = .error .trailingText := by
  obtain ⟨c, ds, front, -, comma, open_, -⟩ := first.exists_cons
  simp [readList, readElements, endList, front, comma, open_]

theorem readList_trailing_comma (comma : skipBlank cs = ',' :: mid) (first : Stands (.value v) (skipBlank mid) rest) :
    readList u s [] index seen cs = .error .trailingText := by
  obtain ⟨c, ds, front, -, -, open_, -⟩ := first.exists_cons
  simp [readList, readElements, endList, comma, front, open_]

theorem readList_of_moreItems (h : Stands (.moreItems vs) cs rest) : readList u s fields (index + 1) seen cs =
    (Value.elements u s fields (index + 1) seen vs).map fun seen => (seen, rest) := by
  induction fields generalizing index seen cs vs with
  | nil =>
    cases h with
    | lastItem closes => exact readList_close closes
    | nextItem comma later =>
      cases later with
      | items first => exact readList_trailing_comma comma first
  | cons f fields ih =>
    cases h with
    | lastItem closes => exact readList_close closes
    | @nextItem v vs _ behind_comma _ comma later =>
      cases later with
      | @items _ _ _ mid _ first later =>
        have value := first
        rw [← skipBlank_skipBlank] at value
        have next : nextElement (index + 1 == 0) cs = .ok (true, skipBlank behind_comma) :=
          nextElement_comma comma first
        rw [readList_item next value later.ends_items, Value.elements]
        cases v.field u f.kind with
        | error e => rfl
        | ok x => exact ih later

theorem readList_of_items (h : Stands (.items vs) cs rest) :
    readList u s fields 0 seen cs = (Value.elements u s fields 0 seen vs).map fun seen => (seen, rest) := by
  cases h with
  | noItems closes => exact readList_close closes
  | @items v vs _ mid _ first later =>
    cases fields with
    | nil => exact readList_trailing first
    | cons f fields =>
      have value := first
      rw [← skipBlank_skipBlank] at value
      have next : nextElement ((0 : Nat) == 0) cs = .ok (true, skipBlank cs) := nextElement_first first
      rw [readList_item next value later.ends_items, Value.elements]
      cases v.field u f.kind with
      | error e => rfl
      | ok x => exact readList_of_moreItems later

end Lists

/-! ### Documents -/

theorem readRecord_of_stands (h : Stands (.value v) (skipBlank cs) rest) (ends : Ends rest) :
    readRecord u s cs = (v.record u s).map fun r => (r, rest) := by
  generalize front : skipBlank cs = ds at h
  have wrong := wrongKind_of_stands (u := u) h ends s.expected
  cases h with
  | null | yes | no | text => simp [readRecord, front, wrong, Value.record, Except.map]
  | number n =>
    rcases n.front rest with ⟨-, front'⟩ | ⟨-, c, cs, front', isDigit, -⟩
    · rw [front'] at front wrong
      simp [readRecord, front, wrong, Value.record, Except.map]
    · rw [front'] at front wrong
      have list : c ≠ '[' := ne_of_isDigit isDigit rfl
      have object : c ≠ '\x7b' := ne_of_isDigit isDigit rfl
      simp [readRecord, front, wrong, list, object, Value.record, Except.map]
  | @list vs ds _ inside =>
    have read : readRecord u s cs = readList u s s.fields 0 [] ds := by
      simp only [readRecord, front, if_true]
      rfl
    rw [read, readList_of_items inside, Value.record]
  | @object ms ds _ inside =>
    have read : readMembers u s (ds.length + 1) true [] ds = (Value.members u s [] ms).map fun seen => (seen, rest) :=
      readMembers_of_stands inside (Nat.lt_succ_self _)
    simp only [readRecord, front, if_false, if_true, Char.reduceEq, read, Value.record]
    cases Value.members u s [] ms with
    | error e => rfl
    | ok seen =>
      simp only [Except.map]
      cases missing? s seen <;> rfl

/-- Reading a document gives the record of its tree, or the fault of the tree. -/
theorem record_of_document (h : Document cs v) : record u s cs = v.record u s := by
  obtain ⟨rest, stands, blank⟩ := h
  simp only [record, readRecord_of_stands stands (ends_of_blank blank)]
  cases v.record u s with
  | error e => rfl
  | ok r => simp [Except.map, blank]

end IdentityClient.Json
