import IdentityClient.Client.Service
import IdentityClient.Log
import IdentityClient.Net.Uri
import IdentityClient.Slot.Run

/-!
# A client and its stubs

A client has one slot per service. The stub of a service is constructed when it is first asked for and
kept; all stubs address the client's origin.
-/

namespace IdentityClient

/-- What calls to one service go through. -/
structure Stub where
  service : ApiService
  origin : Uri
  /-- How many constructions of the client were started before its own. -/
  serial : Nat
  deriving DecidableEq, Repr

/-- A stub, rendered up to its transport. -/
def Stub.renderStart (s : Stub) : String :=
  "ServiceClient \x7b service: " ++ quoted s.service.fullName

structure Client where
  origin : Uri
  slots : ApiService → Slot.State Stub
  /-- How many constructions have been started. -/
  started : Nat
  log : List LogRecord

namespace Client

/-- A client without stubs. -/
def ofOrigin (origin : Uri) : Client := ⟨origin, fun v => .initial v.fullName, 0, []⟩

/-- The stub of a service, if it has been constructed. -/
def stub? (c : Client) (v : ApiService) : Option Stub := (c.slots v).value

/-- What is logged when a construction starts. -/
def constructing (v : ApiService) : LogRecord := .debug ("constructing " ++ v.fullName ++ " client")

def setSlot (c : Client) (v : ApiService) (s : Slot.State Stub) : Client :=
  { c with slots := fun w => if w = v then s else c.slots w }

/-- Thread `t` asks for the stub of a service; if it has to be constructed, that may panic. -/
def access (c : Client) (t : Slot.Thread) (v : ApiService) (panics : Bool) :
    Client × Option (Slot.Outcome Stub) :=
  let made : Slot.Outcome Stub := if panics then .panicked else .value ⟨v, c.origin, c.started⟩
  let before := c.slots v
  let after := before.ask t made
  let runs := after.constructions - before.constructions
  let c := { c with started := c.started + runs, log := c.log ++ List.replicate runs (constructing v) }
  (c.setSlot v after, after.lastReturn? t)

/-- Several threads ask for the stub of a service. -/
def accessAll (c : Client) (threads : Nat) (v : ApiService) : Client × List (Option (Slot.Outcome Stub)) :=
  (List.range threads).foldl (fun (c, out) t =>
    let (c, o) := c.access t v false
    (c, out ++ [o])) (c, [])

/-- How many services have a stub. -/
def initialized (c : Client) : Nat := (ApiService.all.filter fun v => (c.stub? v).isSome).length

def render (c : Client) : String :=
  renderPartialRecord "Client" [("origin", c.origin.render), ("initialized_services", toString c.initialized)]

@[simp] theorem setSlot_slots_self (c : Client) (v : ApiService) (s : Slot.State Stub) :
    (c.setSlot v s).slots v = s := by
  simp [setSlot]

/-- An access changes no other service's slot. -/
theorem access_slots_of_ne (c : Client) (t : Slot.Thread) {v w : ApiService} (panics : Bool)
    (h : w ≠ v) : (c.access t v panics).1.slots w = c.slots w := by
  simp [access, setSlot, h]

end Client

end IdentityClient
