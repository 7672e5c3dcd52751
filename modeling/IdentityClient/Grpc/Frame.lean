import IdentityClient.Grpc.Status
import IdentityClient.Net.HttpStatus
import IdentityClient.Text.Utf8

/-!
# Message frames

A body is a sequence of messages, each after a flag and its length in four bytes, the highest first.
Reading gives back what was written (`readFrames_frame`).
-/

namespace IdentityClient.Grpc

/-- The longest message that is read. -/
def maxMessageLength : Nat := 4194304

/-- A message with its flag and its length. -/
def frame (message : Bytes) : Bytes :=
  let n := message.length
  0 :: UInt8.ofNat (n / 16777216) :: UInt8.ofNat (n / 65536) :: UInt8.ofNat (n / 256) :: UInt8.ofNat n ::
    message

/-- Why a body cannot be read on. -/
inductive FrameFault where
  /-- Marked as compressed, but no encoding was agreed. -/
  | compressed
  | flag (f : UInt8)
  | tooLong (length : Nat)
  deriving DecidableEq, Repr

/-- The status for a fault; `http` is that of the reply, unless its headers have settled the call. -/
def FrameFault.status (http : Option HttpStatus) : FrameFault → Status
  | .compressed => ⟨.internal,
      "protocol error: received message with compressed-flag but no grpc-encoding was specified"⟩
  | .flag f =>
    let while_ := match http with
      | some s => " while receiving response with status: " ++ s.render
      | none => ", while sending request"
    ⟨.internal, "protocol error: received message with invalid compression flag: " ++ toString f.toNat ++
      " (valid flags are 0 and 1)" ++ while_⟩
  | .tooLong n => ⟨.outOfRange, "Error, decoded message length too large: found " ++ toString n ++
      " bytes, the limit is: " ++ toString maxMessageLength ++ " bytes"⟩

/-- What reading a body has come to. -/
structure Frames where
  messages : List Bytes
  fault : Option FrameFault
  /-- Whether bytes of a message are left that is not complete; its flag and length do not count. -/
  leftover : Bool
  deriving DecidableEq, Repr

/-- The number that four bytes make, the highest first. -/
def wordOf (a b c d : UInt8) : Nat := ((a.toNat * 256 + b.toNat) * 256 + c.toNat) * 256 + d.toNat

def readFrames : Bytes → Frames
  | flag :: a :: b :: c :: d :: rest =>
    if flag = 0 then
      let n := wordOf a b c d
      if maxMessageLength < n then ⟨[], some (.tooLong n), false⟩
      else if rest.length < n then ⟨[], none, !rest.isEmpty⟩
      else
        let r := readFrames (rest.drop n)
        { r with messages := rest.take n :: r.messages }
    else if flag = 1 then ⟨[], some .compressed, false⟩
    else ⟨[], some (.flag flag), false⟩
  | rest => ⟨[], none, !rest.isEmpty⟩
termination_by bytes => bytes.length
decreasing_by simp only [List.length_drop, List.length_cons]; omega

theorem wordOf_ofNat {n : Nat} (h : n < 4294967296) :
    wordOf (.ofNat (n / 16777216)) (.ofNat (n / 65536)) (.ofNat (n / 256)) (.ofNat n) = n := by
  simp only [wordOf, UInt8.toNat_ofNat']
  omega

/-- Reading a message that was written gives it back, and goes on behind it. -/
theorem readFrames_frame (m rest : Bytes) (h : m.length ≤ maxMessageLength) :
    readFrames (frame m ++ rest) =
      { readFrames rest with messages := m :: (readFrames rest).messages } := by
  have small : m.length < 4294967296 := Nat.lt_of_le_of_lt h (by decide)
  rw [frame, List.cons_append, List.cons_append, List.cons_append, List.cons_append,
    List.cons_append, readFrames]
  simp only [wordOf_ofNat small]
  simp [Nat.not_lt.2 h]

end IdentityClient.Grpc
