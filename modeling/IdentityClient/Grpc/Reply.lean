import IdentityClient.Grpc.Frame
import IdentityClient.Headers
import IdentityClient.Net.Url.Percent

/-!
# Replies to calls

A reply ends with a status, in the trailers or, if there is nothing else, in the headers. Without one
the status is inferred from that of HTTP. A stream is its messages up to the first failure; a single
answer is the first message, but only if all that follows is in order, too.
-/

namespace IdentityClient.Grpc

structure Reply where
  status : HttpStatus
  headers : Headers
  body : Bytes
  trailers : Option Headers
  deriving DecidableEq, Repr

def statusHeader : String := "grpc-status"
def messageHeader : String := "grpc-message"
def encodingHeader : String := "grpc-encoding"

/-- Percent-decoded bytes; a percent sign that starts no byte stands for itself. -/
def percentDecode : Bytes → Bytes
  | 0x25 :: a :: b :: rest =>
    match Hex.value? (Char.ofNat a.toNat), Hex.value? (Char.ofNat b.toNat) with
    | some high, some low => UInt8.ofNat (high * 16 + low) :: percentDecode rest
    | _, _ => 0x25 :: percentDecode (a :: b :: rest)
  | c :: rest => c :: percentDecode rest
  | [] => []
termination_by bytes => bytes.length

/-- The status that headers state. -/
def Status.ofHeaders? (h : Headers) : Option Status := do
  let code ← h.get? statusHeader
  let code := match Utf8.decode code.bytes with
    | .ok text => Code.ofText text
    | .error _ => .unknown
  match h.get? messageHeader with
  | none => pure ⟨code, ""⟩
  | some v =>
    match Utf8.decode (percentDecode v.bytes) with
    | .ok text => pure ⟨code, text⟩
    | .error e => pure ⟨.unknown, "Error deserializing status message header: " ++ e.message⟩

/-- What a status of HTTP says about a call that ended without one of its own. -/
def Code.ofHttp (s : HttpStatus) : Code :=
  match s.code with
  | 400 => .internal
  | 401 => .unauthenticated
  | 403 => .permissionDenied
  | 404 => .unimplemented
  | 429 | 502 | 503 | 504 => .unavailable
  | _ => .unknown

/-- The status of a call that ended without one. -/
def Status.inferred (s : HttpStatus) : Status :=
  if s = .ok then ⟨.unknown, "protocol error: missing grpc-status trailer, stream was terminated" ++
    " without a final status (possible truncation by a proxy or load balancer)"⟩
  else ⟨.ofHttp s, "grpc-status header missing, mapped from HTTP status code " ++ toString s.code⟩

/-- The status with which a call ends that is no success, if the trailers do not state one. -/
def Status.failure? (s : HttpStatus) (trailers : Option Headers) : Option Status :=
  match trailers.bind ofHeaders? with
  | some st => if st.code = .ok then none else some st
  | none => some (inferred s)

/-- The name of an encoding, as a refusal shows it: as text or as a list of bytes. -/
def encodingText (v : HeaderValue) : String :=
  match Utf8.decode v.bytes with
  | .ok text => text
  | .error _ => "[" ++ ", ".intercalate (v.bytes.map fun b => toString b.toNat) ++ "]"

/-- Messages in order, and the failure that ended them. -/
structure Stream (μ : Type) where
  messages : List μ
  failure : Option Status
  deriving Repr

namespace Reply

variable {μ : Type}

/-- Decodes messages up to the first that cannot be. -/
def decodeAll (decode : Bytes → Except String μ) : List Bytes → List μ × Option String
  | [] => ([], none)
  | b :: rest =>
    match decode b with
    | .error e => ([], some e)
    | .ok m =>
      let (ms, e) := decodeAll decode rest
      (m :: ms, e)

/-- Whether the headers have settled the call: with success, or with the status given. -/
def headerStatus? (r : Reply) : Option Status := Status.ofHeaders? r.headers

/-- How a body ends of which all messages could be read. -/
def finish (r : Reply) (leftover : Bool) : Option Status :=
  if r.trailers.isNone && leftover then some ⟨.internal, "Unexpected EOF decoding stream."⟩
  else if r.headerStatus?.isSome then none
  else Status.failure? r.status r.trailers

/-- The messages of a body. -/
def read (r : Reply) (decode : Bytes → Except String μ) : Stream μ :=
  let frames := readFrames r.body
  match decodeAll decode frames.messages with
  | (ms, some e) => ⟨ms, some ⟨.internal, e⟩⟩
  | (ms, none) =>
    let http := if r.headerStatus?.isSome then none else some r.status
    match frames.fault with
    | some f => ⟨ms, some (f.status http)⟩
    | none => ⟨ms, r.finish frames.leftover⟩

/-- Why a reply is refused before its body is read. -/
def refusal? (r : Reply) : Option Status :=
  let encoding := match r.headers.get? encodingHeader with
    | none => none
    | some v => if v.bytes = Utf8.encode "identity" then none else some v
  match encoding, r.headerStatus? with
  | some v, _ => some ⟨.unimplemented,
      "Content is compressed with \x60" ++ encodingText v ++ "\x60 which isn't supported"⟩
  | none, some st => if st.code = .ok then none else some st
  | none, none => none

/-- The stream that a reply carries. -/
def stream (r : Reply) (decode : Bytes → Except String μ) : Except Status (Stream μ) :=
  match r.refusal? with
  | some st => .error st
  | none => .ok (r.read decode)

/-- The single message that a reply carries, with its headers and trailers. -/
def unary (r : Reply) (decode : Bytes → Except String μ) : Except Status (μ × Headers) :=
  match r.stream decode with
  | .error st => .error st
  | .ok ⟨_, some st⟩ => .error st
  | .ok ⟨[], none⟩ => .error ⟨.internal, "Missing response message."⟩
  | .ok ⟨m :: _, none⟩ => .ok (m, r.headers.extend (r.trailers.getD []))

end Reply

end IdentityClient.Grpc
