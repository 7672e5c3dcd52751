import IdentityClient.Proofs.Json.Record
import IdentityClient.Proofs.Json.Whole
import Mathlib.Data.List.Nodup

/-!
# Records of objects

An object gives a record exactly when each of its names denotes a text, each field of the schema is given at most once
and by a value that fits it, and those that must be there are. Members that the schema does not know are passed over.
-/

namespace IdentityClient.Json

variable {u : Units} {s : Schema} {seen r : Record} {f : Field} {t : TextLiteral} {v : Value} {name : String}
  {ms : List (TextLiteral × Value)}

/-- Every name of the members denotes a text. -/
def Named (u : Units) (ms : List (TextLiteral × Value)) : Prop := ∀ m ∈ ms, ∃ name, m.1.read u = .ok name

/-- The values of the members with this name, in order. -/
def valuesOf (u : Units) (name : String) : List (TextLiteral × Value) → List Value
  | [] => []
  | (t, v) :: ms =>
    match t.read u with
    | .error _ => valuesOf u name ms
    | .ok n => if n = name then v :: valuesOf u name ms else valuesOf u name ms

/-- The field is given at most once, and by a value that fits it. -/
def Given (u : Units) (ms : List (TextLiteral × Value)) (f : Field) (x : Option FieldValue) : Prop :=
  (valuesOf u f.name ms).map (Value.field u f.kind) = x.toList.map .ok

theorem valuesOf_same (read : t.read u = .ok name) : valuesOf u name ((t, v) :: ms) = v :: valuesOf u name ms := by
  simp [valuesOf, read]

theorem valuesOf_other {n : String} (read : t.read u = .ok n) (other : n ≠ name) :
    valuesOf u name ((t, v) :: ms) = valuesOf u name ms := by
  simp [valuesOf, read, other]

theorem Given.eq_of_given {x y : Option FieldValue} (h : Given u ms f x) (h' : Given u ms f y) : x = y := by
  have same := h.symm.trans h'
  cases x <;> cases y <;> simp_all

namespace Value

theorem member_unknown (read : t.read u = .ok name) (unknown : ∀ f ∈ s.fields, f.name ≠ name) :
    member u s seen (t, v) = .ok seen := by
  have find : s.fields.find? (·.name == name) = none := by simpa using unknown
  simp [member, read, find]

theorem member_known (distinct : (s.fields.map Field.name).Nodup) (known : f ∈ s.fields)
    (read : t.read u = .ok f.name) : member u s seen (t, v) =
      if (seen.lookup f.name).isSome then .error (.duplicateField f.name)
      else (v.field u f.kind).map fun x => (f.name, x) :: seen := by
  have find : s.fields.find? (·.name == f.name) = some f := by
    cases h : s.fields.find? (·.name == f.name) with
    | none => exact absurd (List.find?_eq_none.mp h f known) (by simp)
    | some g =>
      have same : g.name = f.name := by simpa using List.find?_some h
      rw [List.inj_on_of_nodup_map distinct (List.mem_of_find?_eq_some h) known same]
  simp [member, read, find]

/-- All that taking a member in can come to. -/
theorem member_cases (distinct : (s.fields.map Field.name).Nodup) {after : Record}
    (h : member u s seen (t, v) = .ok after) : ∃ name, t.read u = .ok name ∧
      ((∀ f ∈ s.fields, f.name ≠ name) ∧ after = seen ∨
        ∃ f ∈ s.fields, ∃ x, f.name = name ∧ seen.lookup f.name = none ∧ v.field u f.kind = .ok x ∧
          after = (f.name, x) :: seen) := by
  cases read : t.read u with
  | error e => simp [member, read] at h
  | ok name =>
    refine ⟨name, rfl, ?_⟩
    by_cases known : ∃ f ∈ s.fields, f.name = name
    · obtain ⟨f, known, rfl⟩ := known
      rw [member_known distinct known read] at h
      cases first : seen.lookup f.name with
      | some => simp [first] at h
      | none =>
        cases value : v.field u f.kind with
        | error e => simp [first, value, Except.map] at h
        | ok x =>
          simp only [first, value, Except.map, Option.isSome_none, Bool.false_eq_true, if_false, Except.ok.injEq] at h
          exact .inr ⟨f, known, x, rfl, first, value, h.symm⟩
    · push Not at known
      rw [member_unknown read known] at h
      exact .inl ⟨known, (Except.ok.inj h).symm⟩

theorem members_cons (m : TextLiteral × Value) :
    members u s seen (m :: ms) = (member u s seen m).bind fun seen => members u s seen ms := by
  rw [members]
  cases member u s seen m <;> rfl

/-- What was read of a field before, and what the members give for it, is what is read of it in the end. -/
theorem members_ok (distinct : (s.fields.map Field.name).Nodup) (h : members u s seen ms = .ok r) :
    Named u ms ∧ ∀ f ∈ s.fields, (seen.lookup f.name).toList.map .ok ++
      (valuesOf u f.name ms).map (Value.field u f.kind) = (r.lookup f.name).toList.map .ok := by
  induction ms generalizing seen with
  | nil =>
    obtain rfl := Except.ok.inj h
    refine ⟨?_, fun f _ => List.append_nil _⟩
    intro m mem
    cases mem
  | cons m ms ih =>
    obtain ⟨t, v⟩ := m
    rw [members_cons] at h
    cases taken : member u s seen (t, v) with
    | error e => simp [taken, Except.bind] at h
    | ok after =>
      rw [taken] at h
      obtain ⟨named, fields⟩ := ih h
      obtain ⟨name, read, step⟩ := member_cases distinct taken
      refine ⟨fun m mem => ?_, fun f known => ?_⟩
      · rcases List.mem_cons.mp mem with rfl | mem
        · exact ⟨name, read⟩
        · exact named m mem
      · have field := fields f known
        rcases step with ⟨unknown, rfl⟩ | ⟨g, mem, x, rfl, first, value, rfl⟩
        · rwa [valuesOf_other read (unknown f known).symm]
        · by_cases same : g = f
          · subst same
            rw [valuesOf_same read, first]
            simpa [value] using field
          · have other : g.name ≠ f.name := fun h => same (List.inj_on_of_nodup_map distinct mem known h)
            rw [valuesOf_other read other]
            simpa [List.lookup_cons, beq_false_of_ne other.symm] using field

/-- What is read at most once, and now, was not read before and is not read again. -/
theorem alone_of_append {α β : Type} {before after : Option α} {e : Except β α} {later : List (Except β α)}
    (once : before.toList.map .ok ++ e :: later = after.toList.map .ok) :
    before = none ∧ later = [] ∧ ∃ x, e = .ok x := by
  cases before with
  | some x => cases after <;> simp at once
  | none =>
    cases after with
    | none => simp at once
    | some y =>
      obtain ⟨value, none⟩ : e = .ok y ∧ later = [] := by simpa using once
      exact ⟨rfl, none, y, value⟩

theorem exists_members (distinct : (s.fields.map Field.name).Nodup) (named : Named u ms)
    (fields : ∀ f ∈ s.fields, ∃ x : Option FieldValue, (seen.lookup f.name).toList.map .ok ++
      (valuesOf u f.name ms).map (Value.field u f.kind) = x.toList.map .ok) :
    ∃ r, members u s seen ms = .ok r := by
  induction ms generalizing seen with
  | nil => exact ⟨seen, rfl⟩
  | cons m ms ih =>
    obtain ⟨t, v⟩ := m
    obtain ⟨name, read⟩ := named (t, v) List.mem_cons_self
    have later : Named u ms := fun m mem => named m (List.mem_cons_of_mem _ mem)
    rw [members_cons]
    by_cases known : ∃ f ∈ s.fields, f.name = name
    · obtain ⟨f, known, rfl⟩ := known
      obtain ⟨x, field⟩ := fields f known
      rw [valuesOf_same read, List.map_cons] at field
      obtain ⟨first, none, y, value⟩ := alone_of_append field
      have taken : member u s seen (t, v) = .ok ((f.name, y) :: seen) := by
        simp [member_known distinct known read, first, value, Except.map]
      rw [taken]
      -- The name was the field's only one, and the other fields are left as they are.
      refine ih later fun g mem => ?_
      by_cases same : f = g
      · subst same
        exact ⟨some y, by simp [List.map_eq_nil_iff.mp none]⟩
      · have other : f.name ≠ g.name := fun h => same (List.inj_on_of_nodup_map distinct known mem h)
        obtain ⟨x, field⟩ := fields g mem
        rw [valuesOf_other read other] at field
        exact ⟨x, by simpa [List.lookup_cons, beq_false_of_ne other.symm] using field⟩
    · push Not at known
      rw [member_unknown read known]
      refine ih later fun f mem => ?_
      obtain ⟨x, field⟩ := fields f mem
      rw [valuesOf_other read (known f mem).symm] at field
      exact ⟨x, field⟩

theorem record_object (ms : List (TextLiteral × Value)) : (object ms).record u s =
    (members u s [] ms).bind fun seen => match missing? s seen with
      | some name => .error (.missingField name)
      | none => .ok seen := by
  rw [record]
  cases members u s [] ms <;> rfl

theorem missing?_eq_none_iff :
    missing? s seen = none ↔ ∀ f ∈ s.fields, f.kind = .text → (seen.lookup f.name).isSome := by
  simp [missing?, Option.isSome_iff_ne_none]

/-- What an object that gives a record holds. -/
theorem record_object_ok (distinct : (s.fields.map Field.name).Nodup) (h : (object ms).record u s = .ok r) :
    Named u ms ∧ ∀ f ∈ s.fields, Given u ms f (r.lookup f.name) ∧ (f.kind = .text → (r.lookup f.name).isSome) := by
  rw [record_object] at h
  cases read : members u s [] ms with
  | error e => simp [read, Except.bind] at h
  | ok seen =>
    cases missing : missing? s seen with
    | some name => simp [read, missing, Except.bind] at h
    | none =>
      obtain rfl : seen = r := by simpa [read, missing, Except.bind] using h
      obtain ⟨named, fields⟩ := members_ok distinct read
      exact ⟨named, fun f known => ⟨fields f known, missing?_eq_none_iff.mp missing f known⟩⟩

/-- An object that holds what the schema asks for gives a record. -/
theorem exists_record_object (distinct : (s.fields.map Field.name).Nodup) (named : Named u ms)
    (fields : ∀ f ∈ s.fields, ∃ x, Given u ms f x ∧ (f.kind = .text → x.isSome)) :
    ∃ r, (object ms).record u s = .ok r := by
  obtain ⟨r, read⟩ : ∃ r, members u s [] ms = .ok r := by
    refine exists_members distinct named fun f known => ?_
    obtain ⟨x, given, -⟩ := fields f known
    exact ⟨x, given⟩
  have there : missing? s r = none := by
    refine missing?_eq_none_iff.mpr fun f known text => ?_
    obtain ⟨x, given, some⟩ := fields f known
    rw [Given.eq_of_given ((members_ok distinct read).2 f known) given]
    exact some text
  exact ⟨r, by simp [record_object, read, there, Except.bind]⟩

end Value

/-! ### Fields of one kind -/

/-- One member has this name, and it is a text. -/
def HoldsText (u : Units) (name : String) (ms : List (TextLiteral × Value)) (x : String) : Prop :=
  ∃ t : TextLiteral, valuesOf u name ms = [.text t] ∧ t.read u = .ok x

/-- No member has this name, or one that is null. -/
def HoldsNone (u : Units) (name : String) (ms : List (TextLiteral × Value)) : Prop :=
  valuesOf u name ms = [] ∨ valuesOf u name ms = [.null]

def MayHoldText (u : Units) (name : String) (ms : List (TextLiteral × Value)) : Option String → Prop
  | none => HoldsNone u name ms
  | some x => HoldsText u name ms x

/-- One member has this name, and it is a whole number of 64 bits; or none, or one that is null. -/
def MayHoldWord (u : Units) (name : String) (ms : List (TextLiteral × Value)) : Option Nat → Prop
  | none => HoldsNone u name ms
  | some k => ∃ n : NumberLiteral, valuesOf u name ms = [.number n] ∧ n.IsWord k

theorem Given.exists_value {x : FieldValue} (given : Given u ms f (some x)) :
    ∃ v, valuesOf u f.name ms = [v] ∧ v.field u f.kind = .ok x := by
  obtain ⟨v, values, value⟩ := List.map_eq_singleton_iff.mp given
  exact ⟨v, values, value⟩

theorem given_none (values : valuesOf u f.name ms = []) : Given u ms f none := by simp [Given, values]

theorem given_some {x : FieldValue} (values : valuesOf u f.name ms = [v]) (value : v.field u f.kind = .ok x) :
    Given u ms f (some x) := by
  simp [Given, values, value]

namespace Value

theorem field_text_ok {x : FieldValue} (h : v.field u .text = .ok x) :
    ∃ t y, v = .text t ∧ t.read u = .ok y ∧ x = .text y := by
  cases v with
  | text t =>
    cases read : t.read u with
    | error e => simp [field, read, Except.map] at h
    | ok y => exact ⟨t, y, rfl, read, by simpa [field, read, Except.map, eq_comm] using h⟩
  | null | bool | number | list | object => cases h

theorem field_optionalText_ok {x : FieldValue} (h : v.field u .optionalText = .ok x) :
    v = .null ∧ x = .absent ∨ ∃ t y, v = .text t ∧ t.read u = .ok y ∧ x = .text y := by
  cases v with
  | null =>
    cases h
    exact .inl ⟨rfl, rfl⟩
  | text t => exact .inr (field_text_ok h)
  | bool | number | list | object => cases h

theorem field_optionalWord_ok {x : FieldValue} (h : v.field u .optionalWord = .ok x) :
    v = .null ∧ x = .absent ∨ ∃ n k, v = .number n ∧ n.IsWord k ∧ x = .word k := by
  cases v with
  | null =>
    cases h
    exact .inl ⟨rfl, rfl⟩
  | number n =>
    obtain ⟨k, rfl, word⟩ := NumberLiteral.exists_word_of_ok h
    exact .inr ⟨n, k, rfl, word, rfl⟩
  | text | bool | list | object => cases h

end Value

theorem HoldsText.given {x : String} (h : HoldsText u name ms x) : Given u ms ⟨name, .text⟩ (some (.text x)) := by
  obtain ⟨t, values, read⟩ := h
  exact given_some values (by simp [Value.field, read, Except.map])

theorem MayHoldText.exists_given {x : Option String} (h : MayHoldText u name ms x) :
    ∃ y, Given u ms ⟨name, .optionalText⟩ y := by
  cases x with
  | none =>
    rcases h with values | values
    · exact ⟨none, given_none values⟩
    · exact ⟨some .absent, given_some values rfl⟩
  | some x =>
    obtain ⟨t, values, read⟩ := h
    exact ⟨some (.text x), given_some values (by simp [Value.field, read, Except.map])⟩

theorem MayHoldWord.exists_given {x : Option Nat} (h : MayHoldWord u name ms x) :
    ∃ y, Given u ms ⟨name, .optionalWord⟩ y := by
  cases x with
  | none =>
    rcases h with values | values
    · exact ⟨none, given_none values⟩
    · exact ⟨some .absent, given_some values rfl⟩
  | some k =>
    obtain ⟨n, values, word⟩ := h
    exact ⟨some (.word k), given_some values ((n.word_eq_iff k).2 word)⟩

theorem HoldsText.unique {x y : String} (h : HoldsText u name ms x) (h' : HoldsText u name ms y) : x = y := by
  obtain ⟨t, values, read⟩ := h
  obtain ⟨t', values', read'⟩ := h'
  obtain rfl : t = t' := by simpa using values.symm.trans values'
  exact Except.ok.inj (read.symm.trans read')

theorem HoldsNone.not_text {x : String} (h : HoldsNone u name ms) : ¬ HoldsText u name ms x := by
  rintro ⟨t, values, -⟩
  rcases h with none | none <;> simp [none] at values

theorem MayHoldText.unique {x y : Option String} (h : MayHoldText u name ms x) (h' : MayHoldText u name ms y) :
    x = y := by
  cases x with
  | none =>
    cases y with
    | none => rfl
    | some y => exact absurd h' h.not_text
  | some x =>
    cases y with
    | none => exact absurd h h'.not_text
    | some y => rw [HoldsText.unique h h']

theorem MayHoldWord.unique {x y : Option Nat} (h : MayHoldWord u name ms x) (h' : MayHoldWord u name ms y) : x = y := by
  have none_word {k : Nat} (none : HoldsNone u name ms) (some : MayHoldWord u name ms (some k)) : False := by
    obtain ⟨n, values, -⟩ := some
    rcases none with none | none <;> simp [none] at values
  cases x with
  | none =>
    cases y with
    | none => rfl
    | some y => exact (none_word h h').elim
  | some x =>
    cases y with
    | none => exact (none_word h' h).elim
    | some y =>
      obtain ⟨n, values, -, -, -, rfl, -⟩ := h
      obtain ⟨n', values', -, -, -, rfl, -⟩ := h'
      obtain rfl : n = n' := by simpa using values.symm.trans values'
      rfl

theorem holdsNone_of_given (given : Given u ms f none) : HoldsNone u f.name ms := .inl (List.map_eq_nil_iff.mp given)

/-- What was read of a field is what it holds. -/
theorem holdsText_iff (given : Given u ms ⟨name, .text⟩ (r.lookup name)) (there : (r.lookup name).isSome) (x : String) :
    HoldsText u name ms x ↔ r.text name = x := by
  have holds : HoldsText u name ms (r.text name) := by
    obtain ⟨y, read⟩ := Option.isSome_iff_exists.mp there
    rw [read] at given
    obtain ⟨v, values, value⟩ := given.exists_value
    obtain ⟨t, z, rfl, denotes, rfl⟩ := Value.field_text_ok value
    exact ⟨t, values, by simp [denotes, Record.text, Record.text?, read]⟩
  exact ⟨holds.unique, fun same => same ▸ holds⟩

theorem mayHoldText_iff (given : Given u ms ⟨name, .optionalText⟩ (r.lookup name)) (x : Option String) :
    MayHoldText u name ms x ↔ r.text? name = x := by
  have holds : MayHoldText u name ms (r.text? name) := by
    rw [Record.text?]
    cases read : r.lookup name with
    | none => exact holdsNone_of_given (read ▸ given)
    | some y =>
      rw [read] at given
      obtain ⟨v, values, value⟩ := given.exists_value
      rcases Value.field_optionalText_ok value with ⟨rfl, rfl⟩ | ⟨t, z, rfl, denotes, rfl⟩
      · exact .inr values
      · exact ⟨t, values, denotes⟩
  exact ⟨holds.unique, fun same => same ▸ holds⟩

theorem mayHoldWord_iff (given : Given u ms ⟨name, .optionalWord⟩ (r.lookup name)) (x : Option Nat) :
    MayHoldWord u name ms x ↔ r.word? name = x := by
  have holds : MayHoldWord u name ms (r.word? name) := by
    rw [Record.word?]
    cases read : r.lookup name with
    | none => exact holdsNone_of_given (read ▸ given)
    | some y =>
      rw [read] at given
      obtain ⟨v, values, value⟩ := given.exists_value
      rcases Value.field_optionalWord_ok value with ⟨rfl, rfl⟩ | ⟨n, k, rfl, word, rfl⟩
      · exact .inr values
      · exact ⟨n, values, word⟩
  exact ⟨holds.unique, fun same => same ▸ holds⟩

/-- The members fill the field as its kind asks for. -/
def Filled (u : Units) (ms : List (TextLiteral × Value)) (f : Field) : Prop :=
  match f.kind with
  | .text => ∃ x, HoldsText u f.name ms x
  | .optionalText => ∃ x, MayHoldText u f.name ms x
  | .optionalWord => ∃ x, MayHoldWord u f.name ms x

/-- The record has what the members hold for the field. -/
def Shows (u : Units) (ms : List (TextLiteral × Value)) (r : Record) (f : Field) : Prop :=
  match f.kind with
  | .text => ∀ x, HoldsText u f.name ms x ↔ r.text f.name = x
  | .optionalText => ∀ x, MayHoldText u f.name ms x ↔ r.text? f.name = x
  | .optionalWord => ∀ x, MayHoldWord u f.name ms x ↔ r.word? f.name = x

theorem Filled.exists_given (h : Filled u ms f) : ∃ x, Given u ms f x ∧ (f.kind = .text → x.isSome) := by
  obtain ⟨name, kind⟩ := f
  cases kind with
  | text =>
    obtain ⟨x, h⟩ := h
    exact ⟨_, HoldsText.given h, fun _ => rfl⟩
  | optionalText =>
    obtain ⟨x, h⟩ := h
    obtain ⟨y, given⟩ := MayHoldText.exists_given h
    exact ⟨y, given, nofun⟩
  | optionalWord =>
    obtain ⟨x, h⟩ := h
    obtain ⟨y, given⟩ := MayHoldWord.exists_given h
    exact ⟨y, given, nofun⟩

theorem Given.shows (given : Given u ms f (r.lookup f.name)) (there : f.kind = .text → (r.lookup f.name).isSome) :
    Shows u ms r f := by
  obtain ⟨name, kind⟩ := f
  cases kind with
  | text => exact holdsText_iff given (there rfl)
  | optionalText => exact mayHoldText_iff given
  | optionalWord => exact mayHoldWord_iff given

theorem Shows.filled (h : Shows u ms r f) : Filled u ms f := by
  obtain ⟨name, kind⟩ := f
  cases kind with
  | text | optionalText | optionalWord => exact ⟨_, (h _).mpr rfl⟩

/-- The record of an object has what its members hold. -/
theorem Value.shows_of_record (distinct : (s.fields.map Field.name).Nodup) (read : (object ms).record u s = .ok r) :
    s.fields.Forall (Shows u ms r) := by
  refine List.forall_iff_forall_mem.mpr fun f known => ?_
  obtain ⟨given, there⟩ := (record_object_ok distinct read).2 f known
  exact given.shows there

/-- An object gives a record exactly if its names are texts and its members fill the fields. -/
theorem Value.exists_record_iff (distinct : (s.fields.map Field.name).Nodup) :
    (∃ r, (object ms).record u s = .ok r) ↔ Named u ms ∧ s.fields.Forall (Filled u ms) := by
  constructor
  · rintro ⟨r, read⟩
    exact ⟨(record_object_ok distinct read).1, (shows_of_record distinct read).imp fun _ => Shows.filled⟩
  · rintro ⟨named, filled⟩
    have filled := List.forall_iff_forall_mem.mp filled
    exact exists_record_object distinct named fun f known => (filled f known).exists_given

end IdentityClient.Json
