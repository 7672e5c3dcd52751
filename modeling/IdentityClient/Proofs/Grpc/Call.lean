import IdentityClient.Grpc.Call
import IdentityClient.Proofs.Net.Target

/-!
# Calls at an origin

At an origin that is no more than `scheme://authority` (`Uri.IsOrigin`), a call is posted to the path that its service and
method form (`Call.request_of_path`), and to nothing else.
-/

namespace IdentityClient

/-- `scheme://authority`, with at most a slash behind. -/
structure Uri.IsOrigin (u : Uri) : Prop where
  scheme : u.scheme.isSome = true
  authority : u.authority.isSome = true
  query : u.target.query = none
  path : u.target.path = "" ∨ u.target.path = "/"

theorem Authority.rest_of_split {cs name rest : List Char} (h : split cs = .ok (name, rest)) :
    rest = cs.dropWhile fun c => !endsAuthority c := by
  unfold split at h
  dsimp only at h
  repeat' split at h
  all_goals cases h
  rfl

/-- What is read from a web scheme and an authority is an origin. -/
theorem Uri.isOrigin_of_parse {text : String} {tls : Bool} {authority : List Char} {u : Uri}
    (written : text.toList = (webScheme tls).toList ++ ("://".toList ++ authority))
    (alone : ∀ c ∈ authority, Authority.endsAuthority c = false) (parsed : Uri.parse text = .ok u) : u.IsOrigin := by
  rw [parse_web written] at parsed
  split at parsed
  · cases parsed
  rw [written, parseFull, splitScheme_web] at parsed
  generalize (if tls then Scheme.https else .http) = scheme at parsed
  dsimp only at parsed
  cases split_ : Authority.split authority with
  | error e =>
    rw [split_] at parsed
    cases parsed
  | ok read =>
    obtain ⟨name, rest⟩ := read
    have nothing : rest = [] := by
      rw [Authority.rest_of_split split_, List.dropWhile_eq_nil_iff]
      intro c hc
      rw [alone c hc]
      rfl
    have target : PathQuery.parse [] = .ok ⟨"", none⟩ := rfl
    rw [split_, nothing] at parsed
    dsimp only at parsed
    rw [target] at parsed
    split at parsed
    · cases parsed
    · cases parsed
      exact ⟨rfl, rfl, rfl, .inl rfl⟩

namespace Grpc

variable {origin : Uri} {call : Call} {path : PathQuery}

/-- The request of a call whose path is `path`. -/
def Call.posted (call : Call) (origin : Uri) (path : PathQuery) : Request where
  method := "POST"
  uri := ⟨origin.scheme, origin.authority, path⟩
  headers := call.headers
  body := frame call.message

theorem atOrigin_of_isOrigin (addressed : origin.IsOrigin) (path : PathQuery) :
    atOrigin origin path = ⟨origin.scheme, origin.authority, path⟩ := by
  have bare : (origin.target.query.isNone && (origin.target.path.isEmpty || origin.target.path == "/")) = true := by
    rw [addressed.query]
    obtain empty | slash := addressed.path
    · rw [empty]; rfl
    · rw [slash]; rfl
  rw [atOrigin, bare]
  rfl

theorem Call.path_of_ok (formed : PathQuery.parse ("/" ++ (call.service ++ "/" ++ call.method)).toList = .ok path) :
    call.path = .ok path := by
  rw [Call.path, fullMethod, formed]

theorem Call.path_of_error {fault : UriFault}
    (unformed : PathQuery.parse ("/" ++ (call.service ++ "/" ++ call.method)).toList = .error fault) :
    call.path = .error ⟨.internal, "invalid method path: " ++ fault.message⟩ := by
  rw [Call.path, fullMethod, unformed]

theorem Call.request_of_path (addressed : origin.IsOrigin) (formed : call.path = .ok path) :
    call.request origin = .ok (call.posted origin path) := by
  rw [Call.request, formed]
  dsimp only
  rw [atOrigin_of_isOrigin addressed]
  rfl

theorem Call.request_of_error {st : Status} (unformed : call.path = .error st) : call.request origin = .error st := by
  rw [Call.request, unformed]

end Grpc

end IdentityClient
