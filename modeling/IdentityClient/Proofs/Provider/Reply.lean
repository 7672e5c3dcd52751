import IdentityClient.Proofs.Json.Accepted
import IdentityClient.Proofs.Json.Compact
import IdentityClient.Proofs.Json.Members
import IdentityClient.Proofs.Procedure
import IdentityClient.Provider.TokenEndpoint

/-!
# Replies of the token endpoint

What a reply comes to that was received in full, from its status and from what its body holds (`TokenEndpoint.Reads`). A
body holds a response if it is a document whose tree gives one (`TokenResponse.In`, `ErrorResponse.In`); of an object this
is said member by member (`TokenResponse.in_object_iff`, `ErrorResponse.in_object_iff`).
-/

namespace IdentityClient

open Json

/-! ### What a body holds -/

/-- The body is a document that gives the record. -/
def Holds (s : Schema) (body : Bytes) (r : Record) : Prop :=
  ∃ v, Document (body.map Units.ofByte) v ∧ v.record .bytes s = .ok r

variable {s : Schema} {body : Bytes} {r r' : Record} {ms : List (TextLiteral × Value)}

theorem holds_iff : Holds s body r ↔ recordOfBytes s body = .ok r := record_eq_ok_iff.symm

theorem holds_object_iff (document : Document (body.map Units.ofByte) (.object ms)) :
    Holds s body r ↔ (Value.object ms).record .bytes s = .ok r := by
  rw [holds_iff, recordOfBytes, record_of_document document]

theorem Holds.unique (h : Holds s body r) (h' : Holds s body r') : r = r' :=
  Except.ok.inj ((holds_iff.mp h).symm.trans (holds_iff.mp h'))

theorem Holds.shows (h : Holds s body r) (document : Document (body.map Units.ofByte) (.object ms))
    (distinct : (s.fields.map Field.name).Nodup) : s.fields.Forall (Shows .bytes ms r) :=
  Value.shows_of_record distinct ((holds_object_iff document).mp h)

theorem exists_holds_iff (document : Document (body.map Units.ofByte) (.object ms))
    (distinct : (s.fields.map Field.name).Nodup) :
    (∃ r, Holds s body r) ↔ Named .bytes ms ∧ s.fields.Forall (Filled .bytes ms) := by
  simp only [holds_object_iff document, Value.exists_record_iff distinct]

/-- The response that gives a token. -/
structure TokenResponse where
  secret : String
  type : Option String
  lifetime : Option Nat

/-- The response that gives none. -/
structure ErrorResponse where
  code : String
  description : Option String

namespace TokenResponse

def ofRecord (r : Record) : TokenResponse := ⟨r.text "access_token", r.text? "token_type", r.word? "expires_in"⟩

/-- The body is a document that holds the response. -/
def In (x : TokenResponse) (body : Bytes) : Prop := ∃ r, Holds TokenEndpoint.tokenSchema body r ∧ x = ofRecord r

variable {x y : TokenResponse}

theorem In.unique (h : x.In body) (h' : y.In body) : x = y := by
  obtain ⟨r, holds, rfl⟩ := h
  obtain ⟨r', holds', rfl⟩ := h'
  rw [holds.unique holds']

theorem schema_distinct : (TokenEndpoint.tokenSchema.fields.map Field.name).Nodup := by decide

theorem in_object_iff (document : Document (body.map Units.ofByte) (.object ms)) : x.In body ↔
    Named .bytes ms ∧ HoldsText .bytes "access_token" ms x.secret ∧ MayHoldText .bytes "token_type" ms x.type ∧
      MayHoldWord .bytes "expires_in" ms x.lifetime := by
  constructor
  · rintro ⟨r, holds, rfl⟩
    obtain ⟨named, -⟩ := (exists_holds_iff document schema_distinct).mp ⟨r, holds⟩
    obtain ⟨secret, lifetime, type⟩ := holds.shows document schema_distinct
    exact ⟨named, (secret _).mpr rfl, (type _).mpr rfl, (lifetime _).mpr rfl⟩
  · rintro ⟨named, secret, type, lifetime⟩
    obtain ⟨r, holds⟩ := (exists_holds_iff document schema_distinct).mpr ⟨named, ⟨_, secret⟩, ⟨_, lifetime⟩, _, type⟩
    obtain ⟨secret', lifetime', type'⟩ := holds.shows document schema_distinct
    exact ⟨r, holds, by rw [ofRecord, (secret' _).mp secret, (type' _).mp type, (lifetime' _).mp lifetime]⟩

end TokenResponse

namespace ErrorResponse

def ofRecord (r : Record) : ErrorResponse := ⟨r.text "error", r.text? "error_description"⟩

/-- The body is a document that holds the response. -/
def In (x : ErrorResponse) (body : Bytes) : Prop := ∃ r, Holds TokenEndpoint.errorSchema body r ∧ x = ofRecord r

variable {x y : ErrorResponse}

theorem In.unique (h : x.In body) (h' : y.In body) : x = y := by
  obtain ⟨r, holds, rfl⟩ := h
  obtain ⟨r', holds', rfl⟩ := h'
  rw [holds.unique holds']

theorem schema_distinct : (TokenEndpoint.errorSchema.fields.map Field.name).Nodup := by decide

theorem in_object_iff (document : Document (body.map Units.ofByte) (.object ms)) : x.In body ↔
    Named .bytes ms ∧ HoldsText .bytes "error" ms x.code ∧
      MayHoldText .bytes "error_description" ms x.description := by
  constructor
  · rintro ⟨r, holds, rfl⟩
    obtain ⟨named, -⟩ := (exists_holds_iff document schema_distinct).mp ⟨r, holds⟩
    obtain ⟨code, description⟩ := holds.shows document schema_distinct
    exact ⟨named, (code _).mpr rfl, (description _).mpr rfl⟩
  · rintro ⟨named, code, description⟩
    obtain ⟨r, holds⟩ := (exists_holds_iff document schema_distinct).mpr ⟨named, ⟨_, code⟩, _, description⟩
    obtain ⟨code', description'⟩ := holds.shows document schema_distinct
    exact ⟨r, holds, by rw [ofRecord, (code' _).mp code, (description' _).mp description]⟩

end ErrorResponse

/-! ### What a reply comes to -/

theorem HttpStatus.isSuccess_iff {status : HttpStatus} : status.isSuccess ↔ 200 ≤ status.code ∧ status.code < 300 := by
  simp [isSuccess]

namespace TokenEndpoint

/-- The type is `bearer` in any case, or there is none. -/
def Bearer (type : Option String) : Prop := ∀ t ∈ type, t.toLower = "bearer"

variable {e : TokenEndpoint} {t : TokenRequest} {request : HttpRequest} {es : List Event} {o : TokenOutcome}
  {now : Instant} {status : HttpStatus} {reason : Option Bytes}

theorem isBearer_iff (type : String) : isBearer type ↔ type.toLower = "bearer" := by
  have lower : type.toLower.toList = type.toList.map Char.toLower := String.toList_map
  rw [isBearer, beq_iff_eq, ← String.toList_inj, lower]

theorem bearer_iff (type : Option String) : Bearer type ↔ isBearer (type.getD "bearer") := by
  cases type with
  | none => simp only [Bearer, Option.not_mem_none, false_imp_iff, implies_true, Option.getD_none, true_iff]; rfl
  | some type => simp [Bearer, isBearer_iff]

/-- The cases of a reply with this status and body that is read at `now`. -/
inductive Comes (now : Instant) (status : HttpStatus) (body : Bytes) : TokenOutcome → Prop where
  | token {x : TokenResponse} (success : status.isSuccess) (holds : x.In body) (bearer : Bearer x.type)
      (filled : x.secret ≠ "") :
      Comes now status body (.token ⟨x.secret, x.lifetime.bind fun secs => now.add? (.ofSecs secs)⟩)
  | otherType {x : TokenResponse} {type : String} (success : status.isSuccess) (holds : x.In body)
      (given : x.type = some type) (other : ¬ Bearer x.type) :
      Comes now status body (.failed (.unsupportedTokenType type))
  | empty {x : TokenResponse} (success : status.isSuccess) (holds : x.In body) (bearer : Bearer x.type)
      (empty : x.secret = "") : Comes now status body (.failed (.invalidResponse .emptyToken))
  | undecodable (success : status.isSuccess) (none : ∀ x : TokenResponse, ¬ x.In body) :
      Comes now status body (.failed (.invalidResponse .undecodable))
  | rejected {x : ErrorResponse} (fails : ¬ status.isSuccess) (holds : x.In body) :
      Comes now status body (.failed (.rejected x.code x.description))
  | refused (fails : ¬ status.isSuccess) (none : ∀ x : ErrorResponse, ¬ x.In body) :
      Comes now status body (.failed (.http (.refused status)))

theorem bearer_none : Bearer none := nofun

theorem tokenOfResponse_comes (success : status.isSuccess) (holds : Holds tokenSchema body r) :
    Comes now status body (tokenOfResponse now r) := by
  have inside : (TokenResponse.ofRecord r).In body := ⟨r, holds, rfl⟩
  have type_iff : Bearer (TokenResponse.ofRecord r).type ↔ isBearer ((r.text? "token_type").getD "bearer") :=
    bearer_iff _
  unfold tokenOfResponse
  dsimp only
  split_ifs with other blank
  · have other : ¬ Bearer (TokenResponse.ofRecord r).type := by simpa [type_iff] using other
    refine .otherType success inside ?_ other
    cases type : (TokenResponse.ofRecord r).type with
    | none => exact absurd (type ▸ bearer_none) other
    | some type' =>
      have given : r.text? "token_type" = some type' := type
      rw [given, Option.getD_some]
  · exact .empty success inside (type_iff.mpr (by simpa using other)) blank
  · have token : Comes now status body _ := .token success inside (type_iff.mpr (by simpa using other)) blank
    cases lifetime : (TokenResponse.ofRecord r).lifetime with
    | none =>
      have given : r.word? "expires_in" = none := lifetime
      rw [given]
      rw [lifetime, Option.bind_none] at token
      exact token
    | some secs =>
      have given : r.word? "expires_in" = some secs := lifetime
      rw [given]
      rw [lifetime, Option.bind_some] at token
      exact token

theorem readReply_comes (now : Instant) (status : HttpStatus) (reason : Option Bytes) (body : Bytes) :
    Comes now status body (readReply now ⟨status, reason, some body⟩) := by
  unfold readReply
  split_ifs with success
  · cases read : recordOfBytes tokenSchema body with
    | ok r =>
      simp only [Option.map_some, read]
      exact tokenOfResponse_comes success (holds_iff.mpr read)
    | error fault =>
      simp only [Option.map_some, read]
      refine .undecodable success ?_
      rintro x ⟨r, holds, -⟩
      rw [holds_iff.mp holds] at read
      cases read
  · cases read : recordOfBytes errorSchema body with
    | ok r =>
      simp only [refusal, Option.getD_some, read]
      exact .rejected (x := .ofRecord r) success ⟨r, holds_iff.mpr read, rfl⟩
    | error fault =>
      simp only [refusal, Option.getD_some, read]
      refine .refused success ?_
      rintro x ⟨r, holds, -⟩
      rw [holds_iff.mp holds] at read
      cases read

/-- All that is promised of a reply with this status and body that is read at `now`. -/
structure Reads (now : Instant) (status : HttpStatus) (body : Bytes) (o : TokenOutcome) : Prop where
  /-- What an object holds. -/
  response_iff : ∀ ms, Document (body.map Units.ofByte) (.object ms) → ∀ x : TokenResponse, x.In body ↔
    Named .bytes ms ∧ HoldsText .bytes "access_token" ms x.secret ∧ MayHoldText .bytes "token_type" ms x.type ∧
      MayHoldWord .bytes "expires_in" ms x.lifetime
  refusal_iff : ∀ ms, Document (body.map Units.ofByte) (.object ms) → ∀ x : ErrorResponse, x.In body ↔
    Named .bytes ms ∧ HoldsText .bytes "error" ms x.code ∧ MayHoldText .bytes "error_description" ms x.description
  token_iff : (∃ token, o = .token token) ↔ (200 ≤ status.code ∧ status.code < 300) ∧
    ∃ x : TokenResponse, x.In body ∧ Bearer x.type ∧ x.secret ≠ ""
  secret : ∀ token, o = .token token → ∀ x : TokenResponse, x.In body → token.secret = x.secret
  /-- Otherwise the token never expires. -/
  expires_iff : ∀ token, o = .token token → ∀ x : TokenResponse, x.In body → ∀ at_, token.expiresAt = some at_ ↔
    ∃ secs, x.lifetime = some secs ∧ at_.nanos = now.nanos + secs * Duration.nanosPerSecond ∧ at_.nanos < Instant.limit
  rejected_iff : ∀ code description, o = .failed (.rejected code description) ↔
    ¬ (200 ≤ status.code ∧ status.code < 300) ∧ ErrorResponse.In ⟨code, description⟩ body
  refused : ¬ (200 ≤ status.code ∧ status.code < 300) → (∀ x : ErrorResponse, ¬ x.In body) →
    ∃ fault, o = .failed (.http fault) ∧ fault.message = "token endpoint returned HTTP " ++ status.render
  unsupported_iff : ∀ type, o = .failed (.unsupportedTokenType type) ↔ (200 ≤ status.code ∧ status.code < 300) ∧
    ∃ x : TokenResponse, x.In body ∧ x.type = some type ∧ type.toLower ≠ "bearer"
  invalid : 200 ≤ status.code ∧ status.code < 300 → (∀ token, o ≠ .token token) →
    (∀ type, o ≠ .failed (.unsupportedTokenType type)) → ∃ fault, o = .failed (.invalidResponse fault)

theorem bearer_some {type : String} : Bearer (some type) ↔ type.toLower = "bearer" := by simp [Bearer]

theorem Comes.token_iff (h : Comes now status body o) : (∃ token, o = .token token) ↔
    status.isSuccess ∧ ∃ x : TokenResponse, x.In body ∧ Bearer x.type ∧ x.secret ≠ "" := by
  constructor
  · rintro ⟨token, rfl⟩
    cases h with
    | token success holds bearer filled => exact ⟨success, _, holds, bearer, filled⟩
  · rintro ⟨success, x, holds, bearer, filled⟩
    cases h with
    | token => exact ⟨_, rfl⟩
    | otherType _ holds' _ other => exact absurd (holds.unique holds' ▸ bearer) other
    | empty _ holds' _ empty => exact absurd (holds.unique holds' ▸ empty) filled
    | undecodable _ none => exact absurd holds (none x)
    | rejected fails | refused fails => exact absurd success fails

theorem Comes.unsupported_iff (h : Comes now status body o) (type : String) :
    o = .failed (.unsupportedTokenType type) ↔
      status.isSuccess ∧ ∃ x : TokenResponse, x.In body ∧ x.type = some type ∧ type.toLower ≠ "bearer" := by
  constructor
  · rintro rfl
    cases h with
    | otherType success holds given other =>
      rw [given, bearer_some] at other
      exact ⟨success, _, holds, given, other⟩
  · rintro ⟨success, x, holds, given, other⟩
    have other : ¬ Bearer x.type := by rwa [given, bearer_some]
    cases h with
    | token _ holds' bearer | empty _ holds' bearer => exact absurd (holds'.unique holds ▸ bearer) other
    | otherType _ holds' given' =>
      rw [holds'.unique holds, given] at given'
      rw [Option.some.inj given']
    | undecodable _ none => exact absurd holds (none x)
    | rejected fails | refused fails => exact absurd success fails

theorem Comes.rejected_iff (h : Comes now status body o) (code : String) (description : Option String) :
    o = .failed (.rejected code description) ↔ ¬ status.isSuccess ∧ ErrorResponse.In ⟨code, description⟩ body := by
  constructor
  · rintro rfl
    cases h with
    | rejected fails holds => exact ⟨fails, holds⟩
  · rintro ⟨fails, holds⟩
    cases h with
    | rejected _ holds' => rw [holds'.unique holds]
    | refused _ none => exact absurd holds (none _)
    | token success | otherType success | empty success | undecodable success => exact absurd success fails

theorem Comes.reads (h : Comes now status body o) : Reads now status body o where
  response_iff _ document _ := TokenResponse.in_object_iff document
  refusal_iff _ document _ := ErrorResponse.in_object_iff document
  token_iff := by simpa only [HttpStatus.isSuccess_iff] using h.token_iff
  unsupported_iff := by simpa only [HttpStatus.isSuccess_iff] using h.unsupported_iff
  rejected_iff := by simpa only [HttpStatus.isSuccess_iff] using h.rejected_iff
  secret := by
    rintro token rfl x holds
    cases h with
    | token _ holds' => rw [holds.unique holds']
  expires_iff := by
    rintro token rfl x holds at_
    cases h with
    | token _ holds' =>
      rw [holds'.unique holds]
      simp only [Option.bind_eq_some_iff, Instant.add?_eq_some_iff, Duration.ofSecs, Duration.ofParts, Nat.add_zero]
      refine exists_congr fun secs => and_congr_right fun _ => ?_
      constructor
      · rintro ⟨fits, nanos⟩
        exact ⟨nanos, nanos ▸ fits⟩
      · rintro ⟨nanos, fits⟩
        exact ⟨nanos ▸ fits, nanos⟩
  refused := by
    rw [← HttpStatus.isSuccess_iff]
    intro fails none
    cases h with
    | rejected _ holds => exact absurd holds (none _)
    | refused => exact ⟨.refused status, rfl, rfl⟩
    | token success | otherType success | empty success | undecodable success => exact absurd success fails
  invalid := by
    rw [← HttpStatus.isSuccess_iff]
    intro success noToken supported
    cases h with
    | token => exact absurd rfl (noToken _)
    | otherType => exact absurd rfl (supported _)
    | empty | undecodable => exact ⟨_, rfl⟩
    | rejected fails | refused fails => exact absurd success fails

/-- What becomes of a token request that is answered in full. -/
theorem ask_reads (ran : (e.ask t).Ran es o)
    (replied : (request, .replied ⟨status, reason, some body⟩) ∈ Event.sends es) :
    ∃ now, es = [.sent request (.replied ⟨status, reason, some body⟩), .clock now] ∧
      Reads now.clock status body o := by
  unfold ask at ran
  split at ran
  · obtain ⟨rfl, rfl⟩ := Procedure.ran_done ran
    cases replied
  · rename_i r _
    cases ran with
    | send _ answer ran =>
      cases answer with
      | unanswered =>
        obtain ⟨rfl, rfl⟩ := Procedure.ran_done ran
        simp at replied
      | replied reply =>
        cases ran with
        | clock now ran =>
          obtain ⟨rfl, rfl⟩ := Procedure.ran_done ran
          obtain ⟨rfl, rfl⟩ : request = r ∧ _ = reply := by simpa using replied
          exact ⟨now, rfl, (readReply_comes _ _ _ _).reads⟩

/-- A token of an hour. -/
def hourBody : Bytes :=
  Utf8.encode "\x7b\"access_token\":\"x\",\"expires_in\":3600,\"token_type\":\"BEARER\"\x7d"

theorem hourBody_holds : TokenResponse.In ⟨"x", some "BEARER", some 3600⟩ hourBody := by
  have read : recordOfBytes tokenSchema hourBody =
      .ok [("token_type", .text "BEARER"), ("expires_in", .word 3600), ("access_token", .text "x")] := by
    decide +kernel
  exact ⟨_, holds_iff.mpr read, rfl⟩

theorem ask_reads_hour : ∃ e t es token, (ask e t).Ran es (.token token) ∧ token.secret = "x" ∧
    token.expiresAt = some ⟨3600 * Duration.nanosPerSecond⟩ := by
  let e : TokenEndpoint := ⟨{ scheme := "https", host := some (.domain "a"), path := .segments ["token"] }, false⟩
  obtain ⟨r, posts⟩ : ∃ r, e.post ⟨[], none⟩ = .ok r := by
    cases made : e.post ⟨[], none⟩ with
    | ok r => exact ⟨r, rfl⟩
    | error fault =>
      have sendable : (e.post ⟨[], none⟩).toOption.isSome = true := by decide +kernel
      rw [made] at sendable
      cases sendable
  let reply : HttpReply := ⟨⟨200⟩, none, some hourBody⟩
  have ran : (ask e ⟨[], none⟩).Ran [.sent r (.replied reply), .clock ⟨⟨0⟩, 0⟩] (readReply ⟨0⟩ reply) := by
    rw [ask, posts]
    exact .send r _ (.clock _ (.done _))
  obtain ⟨now, same, reads⟩ := ask_reads ran (List.mem_singleton.mpr rfl)
  obtain rfl : ⟨⟨0⟩, 0⟩ = now := by simpa [reply] using same
  have bearer : Bearer (some "BEARER") := (bearer_iff _).mpr (by decide)
  obtain ⟨token, given⟩ := reads.token_iff.mpr ⟨by decide, _, hourBody_holds, bearer, by decide⟩
  refine ⟨e, _, _, token, given ▸ ran, reads.secret token given _ hourBody_holds, ?_⟩
  exact (reads.expires_iff token given _ hourBody_holds _).mpr ⟨3600, rfl, by simp, by decide⟩

end TokenEndpoint

end IdentityClient
