import IdentityClient.Proofs.Json.Compact
import IdentityClient.Proofs.Json.Members
import IdentityClient.ServiceKey

/-!
# Key documents

What a key document gives that is an object: a key, when it has an identifier and an owner. The owner is looked for in
`userId` first and in `clientId` only when the document has no `userId`, so a `userId` without characters hides the
`clientId` beside it.
-/

namespace IdentityClient.ServiceKey

open Json

/-- The text is an object with these members, each of them once. It may have others. -/
structure Written (text : String) (ms : List (TextLiteral × Value)) (k : ServiceKey) : Prop where
  document : Document text.toList (.object ms)
  named : Named .text ms
  keyId : HoldsText .text "keyId" ms k.keyId
  key : HoldsText .text "key" ms k.key
  userId : MayHoldText .text "userId" ms k.userId
  clientId : MayHoldText .text "clientId" ms k.clientId

/-- The first of the user and the application that has a name. -/
def owner (k : ServiceKey) : Option String := (k.userId.filter (· ≠ "")).or (k.clientId.filter (· ≠ ""))

variable {text : String} {ms : List (TextLiteral × Value)} {k : ServiceKey}

theorem schema_distinct : (schema.fields.map Json.Field.name).Nodup := by decide

theorem Written.ofDocument_eq (h : Written text ms k) : ofDocument text = k.check := by
  have filled : schema.fields.Forall (Filled .text ms) := ⟨⟨_, h.keyId⟩, ⟨_, h.key⟩, ⟨_, h.userId⟩, _, h.clientId⟩
  obtain ⟨r, read⟩ := (Value.exists_record_iff schema_distinct).mpr ⟨h.named, filled⟩
  obtain ⟨keyId, key, userId, clientId⟩ := Value.shows_of_record schema_distinct read
  have same : ofRecord r = k := by
    rw [ofRecord, (keyId _).mp h.keyId, (key _).mp h.key, (userId _).mp h.userId, (clientId _).mp h.clientId]
  have whole : recordOfText schema text = .ok r := (record_of_document h.document).trans read
  simp only [ofDocument, whole, same]

theorem check_ok_iff {k' : ServiceKey} : k.check = .ok k' ↔ k.keyId ≠ "" ∧ k.subject ≠ "" ∧ k' = k := by
  unfold check
  split_ifs with noId noOwner
  · simp [noId]
  · simp [noOwner]
  · simp [noId, noOwner, eq_comm]

theorem check_noOwner {e : KeyFault} (h : k.check = .error e)
    (named : e.message = "key document has neither userId nor clientId") : k.subject = "" := by
  unfold check at h
  split_ifs at h with noId noOwner
  · obtain rfl : KeyFault.emptyKeyId = e := by simpa using h
    exact absurd named (by decide)
  · exact noOwner

theorem subject_of_blank_user (blank : k.userId = some "") : k.subject = "" := by
  simp [subject, blank]

/-- Unless a user without a name hides the application, the key belongs to its owner. -/
theorem owner_eq (shown : ¬ (k.userId = some "" ∧ k.owner ≠ none)) :
    k.owner = if k.subject = "" then none else some k.subject := by
  rcases user : k.userId with _ | user'
  · rcases client : k.clientId with _ | client'
    · simp [owner, subject, user, client]
    · by_cases blank : client' = "" <;> simp [owner, subject, user, client, blank]
  · by_cases blank : user' = ""
    · subst blank
      have none : k.owner = none := not_not.mp fun there => shown ⟨user, there⟩
      simp [none, subject_of_blank_user user]
    · simp [owner, subject, user, blank]

/-- The key of an object, and why there is none. A document whose `userId` has no characters gives none, whatever its
`clientId` is; any other gives one exactly if it has an identifier and an owner. -/
theorem ofDocument_owner (h : Written text ms k) :
    (¬ (k.userId = some "" ∧ k.owner ≠ none) →
      ((∃ k', ofDocument text = .ok k') ↔ k.keyId ≠ "" ∧ k.owner ≠ none) ∧
      (∀ k', ofDocument text = .ok k' → some k'.subject = k.owner ∧ k'.keyId = k.keyId) ∧
      ∀ e, ofDocument text = .error e → e.message = "key document has neither userId nor clientId" →
        k.owner = none) ∧
    (k.userId = some "" → ofDocument text = .error (if k.keyId = "" then .emptyKeyId else .noOwner)) := by
  rw [h.ofDocument_eq]
  refine ⟨fun shown => ?_, fun blank => ?_⟩
  · have owner := owner_eq shown
    have there : k.owner ≠ none ↔ k.subject ≠ "" := by rw [owner]; split_ifs <;> simp_all
    refine ⟨?_, fun k' ok => ?_, fun e failed named => ?_⟩
    · rw [there]
      refine ⟨fun ⟨k', ok⟩ => ?_, fun ⟨id, subject⟩ => ⟨k, check_ok_iff.mpr ⟨id, subject, rfl⟩⟩⟩
      obtain ⟨id, subject, -⟩ := check_ok_iff.mp ok
      exact ⟨id, subject⟩
    · obtain ⟨-, subject, rfl⟩ := check_ok_iff.mp ok
      rw [owner, if_neg subject]
      exact ⟨rfl, rfl⟩
    · rw [owner, if_pos (check_noOwner failed named)]
  · simp only [check, subject_of_blank_user blank, if_true]
    split_ifs <;> rfl

/-- The key of an application, with a member that no key has and with `user` as its `userId`. -/
def applicationMembers (user : Value) : List (TextLiteral × Value) :=
  [(.ofText "type" (by decide), .text (.ofText "application" (by decide))),
    (.ofText "keyId" (by decide), .text (.ofText "1" (by decide))),
    (.ofText "key" (by decide), .text (.ofText "k" (by decide))),
    (.ofText "userId" (by decide), user),
    (.ofText "clientId" (by decide), .text (.ofText "app" (by decide)))]

theorem written_application {user : Value} {x : Option String}
    (written : text.toList = (Value.object (applicationMembers user)).chars)
    (given : MayHoldText .text "userId" (applicationMembers user) x) :
    Written text (applicationMembers user) ⟨"1", "k", x, some "app"⟩ where
  document := written ▸ document_chars _
  named := by
    simp [Named, applicationMembers, TextLiteral.read_ofText_text]
  keyId := ⟨_, rfl, rfl⟩
  key := ⟨_, rfl, rfl⟩
  userId := given
  clientId := ⟨_, rfl, rfl⟩

def applicationText : String :=
  "\x7b\"type\":\"application\",\"keyId\":\"1\",\"key\":\"k\",\"userId\":null,\"clientId\":\"app\"\x7d"

theorem ofDocument_owner_application :
    Written applicationText (applicationMembers .null) ⟨"1", "k", none, some "app"⟩ ∧
      ∃ k, ofDocument applicationText = .ok k ∧ k.subject = "app" ∧ k.keyId = "1" := by
  have application : Written applicationText (applicationMembers .null) ⟨"1", "k", none, some "app"⟩ :=
    written_application rfl (.inr rfl)
  obtain ⟨ok, owned, -⟩ := (ofDocument_owner application).1 (by decide)
  obtain ⟨k, found⟩ := ok.mpr (by decide)
  obtain ⟨subject, keyId⟩ := owned k found
  exact ⟨application, k, found, Option.some.inj subject, keyId⟩

/-- The user has no name. -/
def hiddenText : String :=
  "\x7b\"type\":\"application\",\"keyId\":\"1\",\"key\":\"k\",\"userId\":\"\",\"clientId\":\"app\"\x7d"

/-- The application has a name, and yet the document is said to have neither owner. -/
theorem ofDocument_hides_application :
    Written hiddenText (applicationMembers (.text [])) ⟨"1", "k", some "", some "app"⟩ ∧
      ∃ e, ofDocument hiddenText = .error e ∧ e.message = "key document has neither userId nor clientId" := by
  have application : Written hiddenText (applicationMembers (.text [])) ⟨"1", "k", some "", some "app"⟩ :=
    written_application rfl ⟨[], rfl, rfl⟩
  exact ⟨application, .noOwner, application.ofDocument_eq, rfl⟩

end IdentityClient.ServiceKey
