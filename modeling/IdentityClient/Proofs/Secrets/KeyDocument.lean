import IdentityClient.Proofs.Json.Compact
import IdentityClient.Proofs.Json.Members
import IdentityClient.Proofs.Secrets.Init

/-!
# Key documents with other keys

Two trees are alike if they are the same but for the texts of the members with one name (`Value.Alike`). They give
records that are the same without that field, or the same fault (`Value.Alike.record`). So what is said of a refused key
document depends on the document without its key. A document that is one text, as a document in a document would be, is
no such case: it is quoted whole (`ofDocument_text`).
-/

namespace IdentityClient

section SameEnd

variable {ε ε' α β γ δ : Type} {R : α → β → Prop} {S : γ → δ → Prop} {x : Except ε α} {y : Except ε β}

theorem SameEnd.bind (h : SameEnd R x y) {f : α → Except ε γ} {g : β → Except ε δ}
    (next : ∀ a b, R a b → SameEnd S (f a) (g b)) : SameEnd S (x.bind f) (y.bind g) := by
  cases h with
  | ok related => exact next _ _ related
  | error e => exact .error e

theorem SameEnd.mapError (h : SameEnd R x y) (f : ε → ε') : SameEnd R (x.mapError f) (y.mapError f) := by
  cases h with
  | ok related => exact .ok related
  | error e => exact .error (f e)

theorem SameEnd.error_iff (h : SameEnd R x y) (e : ε) : x = .error e ↔ y = .error e := by
  cases h <;> simp

theorem SameEnd.exists_ok_iff (h : SameEnd R x y) : (∃ a, x = .ok a) ↔ ∃ b, y = .ok b := by
  cases h <;> simp

end SameEnd

namespace Json

open List (Forall₂)

variable {u : Units} {s : Schema} {secret : String} {seen seen' : Record} {v w : Value}
  {ms ns : List (TextLiteral × Value)}

mutual

/-- The trees are the same but for the texts of members with the name `secret`. -/
inductive Value.Alike (u : Units) (secret : String) : Value → Value → Prop where
  | same (v : Value) : Value.Alike u secret v v
  | list {vs ws : List Value} (items : Forall₂ (Value.Alike u secret) vs ws) :
      Value.Alike u secret (.list vs) (.list ws)
  | object {ms ns : List (TextLiteral × Value)} (members : Forall₂ (MemberAlike u secret) ms ns) :
      Value.Alike u secret (.object ms) (.object ns)

inductive MemberAlike (u : Units) (secret : String) : TextLiteral × Value → TextLiteral × Value → Prop where
  | value (name : TextLiteral) {v w : Value} (values : Value.Alike u secret v w) :
      MemberAlike u secret (name, v) (name, w)
  | text {name t t' : TextLiteral} {x x' : String} (named : name.read u = .ok secret) (read : t.read u = .ok x)
      (read' : t'.read u = .ok x') : MemberAlike u secret (name, .text t) (name, .text t')

end

/-- The records are the same but for the content of the field `secret`. -/
structure Record.Alike (secret : String) (r r' : Record) : Prop where
  present : ∀ name, (r.lookup name).isSome = (r'.lookup name).isSome
  same : ∀ name, name ≠ secret → r.lookup name = r'.lookup name

theorem Record.Alike.refl (r : Record) : r.Alike secret r := ⟨fun _ => rfl, fun _ _ => rfl⟩

theorem Record.Alike.cons {r r' : Record} (h : r.Alike secret r') {name : String} {x x' : FieldValue}
    (values : name ≠ secret → x = x') : Record.Alike secret ((name, x) :: r) ((name, x') :: r') where
  present n := by
    by_cases here : n = name
    · simp [here]
    · simpa [List.lookup_cons, beq_false_of_ne here] using h.present n
  same n other := by
    by_cases here : n = name
    · subst here
      simp [values other]
    · simpa [List.lookup_cons, beq_false_of_ne here] using h.same n other

namespace Value

/-- What is said of a value in the wrong place does not depend on what is inside of it. -/
theorem Alike.field (h : v.Alike u secret w) (kind : FieldKind) : v.field u kind = w.field u kind := by
  cases h with
  | same => rfl
  | list => cases kind <;> rfl
  | object => cases kind <;> rfl

theorem elements_alike {vs ws : List Value} (h : Forall₂ (Alike u secret) vs ws) (fields : List Field) (index : Nat)
    (seen : Record) : elements u s fields index seen vs = elements u s fields index seen ws := by
  induction h generalizing fields index seen with
  | nil => rfl
  | cons first later ih =>
    cases fields with
    | nil => rfl
    | cons f fields =>
      rw [elements, elements, first.field]
      split
      · rfl
      · exact ih _ _ _

section Members

variable (texts : ∀ f ∈ s.fields, f.name = secret → f.kind ≠ .optionalWord)
include texts

theorem member_alike {m n : TextLiteral × Value} (h : MemberAlike u secret m n) (seen_alike : seen.Alike secret seen') :
    SameEnd (Record.Alike secret) (member u s seen m) (member u s seen' n) := by
  have present := seen_alike.present
  cases h with
  | @value name v w values =>
    unfold member
    dsimp only
    cases name.read u with
    | error e => exact .error e
    | ok key =>
      dsimp only
      cases s.fields.find? (·.name == key) with
      | none => exact .ok seen_alike
      | some f =>
        dsimp only
        rw [present key, values.field]
        split_ifs with again
        · exact .error _
        · cases w.field u f.kind with
          | error e => exact .error e
          | ok x => exact .ok (seen_alike.cons fun _ => rfl)
  | @text name t t' x x' named read read' =>
    unfold member
    simp only [named]
    cases find : s.fields.find? (·.name == secret) with
    | none => exact .ok seen_alike
    | some f =>
      have here : f.name = secret := by simpa using List.find?_some find
      have field {t : TextLiteral} {x : String} (read : t.read u = .ok x) :
          (Value.text t).field u f.kind = .ok (.text x) := by
        have kind := texts f (List.mem_of_find?_eq_some find) here
        cases h : f.kind with
        | text => simp [Value.field, read, Except.map]
        | optionalText => simp [Value.field, read, Except.map]
        | optionalWord => exact absurd h kind
      simp only [present secret, field read, field read']
      split_ifs with again
      · exact .error _
      · exact .ok (seen_alike.cons fun other => absurd rfl other)

theorem members_alike (h : Forall₂ (MemberAlike u secret) ms ns) (seen_alike : seen.Alike secret seen') :
    SameEnd (Record.Alike secret) (members u s seen ms) (members u s seen' ns) := by
  induction h generalizing seen seen' with
  | nil => exact .ok seen_alike
  | cons first later ih =>
    rw [members_cons, members_cons]
    exact (member_alike texts first seen_alike).bind fun _ _ => ih

omit texts in
theorem missing?_alike (h : seen.Alike secret seen') : missing? s seen = missing? s seen' := by
  have absent (f : Field) : (seen.lookup f.name).isNone = (seen'.lookup f.name).isNone := by
    rw [← Option.not_isSome, ← Option.not_isSome, h.present]
  simp only [missing?, absent]

theorem Alike.record (h : v.Alike u secret w) :
    SameEnd (Record.Alike secret) (v.record u s) (w.record u s) := by
  cases h with
  | same =>
    cases v.record u s with
    | error e => exact .error e
    | ok r => exact .ok (.refl r)
  | list items =>
    rw [Value.record, Value.record, elements_alike items]
    cases elements u s s.fields 0 [] _ with
    | error e => exact .error e
    | ok r => exact .ok (.refl r)
  | object members =>
    rw [record_object, record_object]
    refine (members_alike texts members (.refl [])).bind fun seen seen' alike => ?_
    rw [missing?_alike alike]
    split
    · exact .error _
    · exact .ok alike

end Members

end Value

end Json

namespace ServiceKey

open Json

variable {text text' : String} {v w : Value}

theorem ofRecord_check_alike {r r' : Record} (h : r.Alike "key" r') :
    SameEnd (fun _ _ => True) (ofRecord r).check (ofRecord r').check := by
  have text? (name : String) (other : name ≠ "key") : r.text? name = r'.text? name := by
    rw [Record.text?, Record.text?, h.same name other]
  have keyId : (ofRecord r).keyId = (ofRecord r').keyId := by
    simp only [ofRecord, Record.text, text? "keyId" (by decide)]
  have subject : (ofRecord r).subject = (ofRecord r').subject := by
    simp only [ofRecord, ServiceKey.subject, text? "userId" (by decide), text? "clientId" (by decide)]
  unfold check
  rw [keyId, subject]
  split_ifs
  · exact .error _
  · exact .error _
  · exact .ok trivial

theorem ofDocument_eq_bind (text : String) : ofDocument text =
    ((recordOfText schema text).mapError KeyFault.malformed).bind fun r => (ofRecord r).check := by
  unfold ofDocument
  cases recordOfText schema text <;> rfl

theorem ofDocument_alike (h : Document text.toList v) (h' : Document text'.toList w) (alike : v.Alike .text "key" w) :
    SameEnd (fun _ _ => True) (ofDocument text) (ofDocument text') := by
  rw [ofDocument_eq_bind, ofDocument_eq_bind, recordOfText, recordOfText, record_of_document h, record_of_document h']
  exact ((alike.record (s := schema) (by decide)).mapError KeyFault.malformed).bind fun _ _ => ofRecord_check_alike

/-- A document that is one text is refused with the whole of the text. -/
theorem ofDocument_text {t : TextLiteral} {x : String} (h : Document text.toList (.text t)) (read : t.read .text = .ok x) :
    ofDocument text = .error (.malformed (.wrongKind (.text x) "struct ServiceKey")) := by
  have refused : (Value.text t).record .text schema = .error (.wrongKind (.text x) "struct ServiceKey") := by
    simp only [Value.record, Value.kindFault, read]
    rfl
  rw [ofDocument_eq_bind, recordOfText, record_of_document h, refused]
  rfl

/-- What is said of two refused documents is the same if they are the same but for the texts of their members `key`. If a
document is one text, that text is shown, and any key in it. -/
theorem ofDocument_hides_key (h : Document text.toList v) (h' : Document text'.toList w) :
    (v.Alike .text "key" w →
      ((∃ k, ofDocument text = .ok k) ↔ ∃ k, ofDocument text' = .ok k) ∧
      ∀ e e', ofDocument text = .error e → ofDocument text' = .error e' →
        (TokenError.invalidKey e).message = (TokenError.invalidKey e').message) ∧
    ∀ t x, v = .text t → t.read .text = .ok x →
      ofDocument text = .error (.malformed (.wrongKind (.text x) "struct ServiceKey")) := by
  refine ⟨fun alike => ?_, ?_⟩
  · have ends := ofDocument_alike h h' alike
    refine ⟨ends.exists_ok_iff, fun e e' failed failed' => ?_⟩
    obtain rfl : e = e' := Except.error.inj (((ends.error_iff e).mp failed).symm.trans failed')
    rfl
  · rintro t x rfl read
    exact ofDocument_text h read

/-- An object in the place of the identifier, which has a member `key` too. -/
def nestedText : String := "\x7b\"key\":\"k\",\"keyId\":\x7b\"key\":\"k\"\x7d\x7d"

def otherNestedText : String := "\x7b\"key\":\"\",\"keyId\":\x7b\"key\":\"other\"\x7d\x7d"

theorem ofDocument_hides_key_nested : ∃ e e', ofDocument nestedText = .error e ∧ ofDocument otherNestedText = .error e' ∧
    (TokenError.invalidKey e).message = (TokenError.invalidKey e').message := by
  let tree (key inner : TextLiteral) : Value := .object [(.ofText "key" (by decide), .text key),
    (.ofText "keyId" (by decide), .object [(.ofText "key" (by decide), .text inner)])]
  have document : Document nestedText.toList (tree (.ofText "k" (by decide)) (.ofText "k" (by decide))) :=
    document_chars _
  have document' : Document otherNestedText.toList (tree [] (.ofText "other" (by decide))) := document_chars _
  have keys {t t' : TextLiteral} {x x' : String} (read : t.read .text = .ok x) (read' : t'.read .text = .ok x') :
      MemberAlike .text "key" (.ofText "key" (by decide), .text t) (.ofText "key" (by decide), .text t') :=
    .text rfl read read'
  have alike : (tree (.ofText "k" (by decide)) (.ofText "k" (by decide))).Alike .text "key"
      (tree [] (.ofText "other" (by decide))) :=
    .object (.cons (keys rfl rfl) (.cons (.value _ (.object (.cons (keys rfl rfl) .nil))) .nil))
  exact ⟨_, _, rfl, rfl, ((ofDocument_hides_key document document').1 alike).2 _ _ rfl rfl⟩

def keyText : String := "\x7b\"keyId\":\"1\",\"key\":\"a\",\"userId\":\"u\"\x7d"

def otherKeyText : String := "\x7b\"keyId\":\"1\",\"key\":\"b\",\"userId\":\"u\"\x7d"

/-- A document that holds `keyText` as a text. -/
def embeddedText : String :=
  "\"\x7b\\\"keyId\\\":\\\"1\\\",\\\"key\\\":\\\"a\\\",\\\"userId\\\":\\\"u\\\"\x7d\""

def otherEmbeddedText : String :=
  "\"\x7b\\\"keyId\\\":\\\"1\\\",\\\"key\\\":\\\"b\\\",\\\"userId\\\":\\\"u\\\"\x7d\""

/-- Two documents that are the same but for the key, each written into a text: what is said of them differs. -/
theorem ofDocument_shows_embedded : ∃ t t' : TextLiteral, ∃ e e',
    Document embeddedText.toList (.text t) ∧ t.read .text = .ok keyText ∧
    Document otherEmbeddedText.toList (.text t') ∧ t'.read .text = .ok otherKeyText ∧
    ofDocument keyText = .ok ⟨"1", "a", some "u", none⟩ ∧ ofDocument otherKeyText = .ok ⟨"1", "b", some "u", none⟩ ∧
    ofDocument embeddedText = .error e ∧ ofDocument otherEmbeddedText = .error e' ∧
    (TokenError.invalidKey e).message ≠ (TokenError.invalidKey e').message := by
  have read := TextLiteral.read_ofText_text keyText (by decide)
  have read' := TextLiteral.read_ofText_text otherKeyText (by decide)
  have document : Document embeddedText.toList (.text (.ofText keyText (by decide))) := document_chars (.text _)
  have document' : Document otherEmbeddedText.toList (.text (.ofText otherKeyText (by decide))) :=
    document_chars (.text _)
  exact ⟨_, _, _, _, document, read, document', read', rfl, rfl, ofDocument_text document read,
    ofDocument_text document' read', by decide⟩

end ServiceKey

end IdentityClient
