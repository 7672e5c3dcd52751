import IdentityClient.Proofs.Provider.Reply
import IdentityClient.Provider.Discovery

/-!
# What a discovery document names

The reply to the request for the document names the token endpoint exactly if its status is not that of an error and its
body is a document whose `token_endpoint` is an absolute URL (`Discovery.readReply_eq_ok_iff`). Of an object the latter is
said member by member (`Discovery.names_object_iff`).
-/

namespace IdentityClient

open Json

theorem HttpStatus.isError_eq_false_iff {status : HttpStatus} :
    (status.isClientError || status.isServerError) = false ↔ ¬ (400 ≤ status.code ∧ status.code < 600) := by
  simp only [isClientError, isServerError, Bool.or_eq_false_iff, Bool.and_eq_false_iff, decide_eq_false_iff_not]
  omega

namespace Discovery

/-- The body is a document that has this text for the token endpoint. -/
def Names (text : String) (body : Bytes) : Prop := ∃ r, Holds schema body r ∧ text = r.text "token_endpoint"

/-- The reply is not that of an error, and its document names the URL. -/
structure Gives (reply : HttpReply) (url : Url) : Prop where
  accepted : ¬ (400 ≤ reply.status.code ∧ reply.status.code < 600)
  named : ∃ body text, reply.body = some body ∧ Names text body ∧ Url.parse text = .ok url

variable {text text' : String} {body : Bytes} {ms : List (TextLiteral × Value)} {get : HttpRequest} {reply : HttpReply}
  {url : Url}

theorem Names.unique (h : Names text body) (h' : Names text' body) : text = text' := by
  obtain ⟨r, holds, rfl⟩ := h
  obtain ⟨r', holds', rfl⟩ := h'
  rw [holds.unique holds']

theorem schema_distinct : (schema.fields.map Field.name).Nodup := by decide

theorem names_object_iff (document : Document (body.map Units.ofByte) (.object ms)) :
    Names text body ↔ Named .bytes ms ∧ HoldsText .bytes "token_endpoint" ms text := by
  constructor
  · rintro ⟨r, holds, rfl⟩
    obtain ⟨named, -⟩ := (exists_holds_iff document schema_distinct).mp ⟨r, holds⟩
    exact ⟨named, (holds.shows document schema_distinct _).mpr rfl⟩
  · rintro ⟨named, endpoint⟩
    obtain ⟨r, holds⟩ := (exists_holds_iff document schema_distinct).mpr ⟨named, text, endpoint⟩
    exact ⟨r, holds, ((holds.shows document schema_distinct _).mp endpoint).symm⟩

theorem readDocument_eq_ok_iff {body : Option Bytes} : readDocument body = .ok url ↔
    ∃ bytes text, body = some bytes ∧ Names text bytes ∧ Url.parse text = .ok url := by
  constructor
  · intro read
    cases body with
    | none => cases read
    | some bytes =>
      cases document : recordOfBytes schema bytes with
      | error fault =>
        simp only [readDocument, Option.map_some, Option.bind_some, document] at read
        cases read
      | ok r =>
        simp only [readDocument, Option.map_some, Option.bind_some, document, Except.toOption] at read
        refine ⟨bytes, _, rfl, ⟨r, holds_iff.2 document, rfl⟩, ?_⟩
        cases parsed : Url.parse (r.text "token_endpoint") with
        | error fault => rw [parsed] at read; cases read
        | ok u =>
          rw [parsed] at read
          exact congrArg Except.ok (Except.ok.inj read)
  · rintro ⟨bytes, text, rfl, ⟨r, holds, rfl⟩, parsed⟩
    simp only [readDocument, Option.map_some, Option.bind_some, holds_iff.1 holds, Except.toOption, parsed]

theorem readReply_eq_ok_iff : readReply get reply = .ok url ↔ Gives reply url := by
  unfold readReply
  cases refused : reply.status.isClientError || reply.status.isServerError with
  | true =>
    refine iff_of_false nofun fun gives => ?_
    rw [HttpStatus.isError_eq_false_iff.2 gives.accepted] at refused
    cases refused
  | false =>
    rw [if_neg Bool.false_ne_true, readDocument_eq_ok_iff]
    exact ⟨fun named => ⟨HttpStatus.isError_eq_false_iff.1 refused, named⟩, Gives.named⟩

/-- A document with an endpoint and nothing else. -/
def bareDocument : Bytes := Utf8.encode "\x7b\"token_endpoint\":\"https://a/token\"\x7d"

theorem bareDocument_names : Names "https://a/token" bareDocument := by
  let ms : List (TextLiteral × Value) :=
    [(.ofText "token_endpoint" (by decide), .text (.ofText "https://a/token" (by decide)))]
  have written : bareDocument.map Units.ofByte = (Value.object ms).chars := by decide +kernel
  have document : Document (bareDocument.map Units.ofByte) (.object ms) := written ▸ document_chars _
  have named : Named .bytes ms := List.forall_mem_singleton.2 ⟨_, rfl⟩
  exact (names_object_iff document).2 ⟨named, _, rfl, rfl⟩

end Discovery

end IdentityClient
