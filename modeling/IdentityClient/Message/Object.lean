import IdentityClient.Wire.Field

/-!
# Records shared by the services

Timestamps, the details of objects and lists, and list queries, each with its layout on the wire.
-/

namespace IdentityClient

open Wire

/-- A record without fields. -/
structure Empty where
  deriving DecidableEq, Repr, Inhabited

instance : Wire.Message Empty where
  empty := {}
  encode _ := []
  mergeField depth tag w m := unknown depth tag w m

/-- A moment, in seconds and nanoseconds since 1970. -/
structure Timestamp where
  seconds : Int64 := 0
  nanos : Int32 := 0
  deriving DecidableEq, Repr, Inhabited

instance : Wire.Message Timestamp where
  empty := {}
  encode m := writeWord 1 m.seconds.toUInt64 ++ writeWord 2 (wordOfInt32 m.nanos)
  mergeField depth tag w m := match tag with
    | 1 => known "Timestamp" "seconds" (readInt w) fun v => { m with seconds := v }
    | 2 => known "Timestamp" "nanos" (readInt32 w) fun v => { m with nanos := v }
    | _ => unknown depth tag w m

/-- What part of a list is asked for, and in which order. -/
structure ListQuery where
  offset : UInt64 := 0
  limit : UInt32 := 0
  asc : Bool := false
  deriving DecidableEq, Repr, Inhabited

instance : Wire.Message ListQuery where
  empty := {}
  encode m := writeWord 1 m.offset ++ writeWord 2 m.limit.toUInt64 ++ writeBool 3 m.asc
  mergeField depth tag w m := match tag with
    | 1 => known "ListQuery" "offset" (readWord w) fun v => { m with offset := v }
    | 2 => known "ListQuery" "limit" (readWord32 w) fun v => { m with limit := v }
    | 3 => known "ListQuery" "asc" (readBool w) fun v => { m with asc := v }
    | _ => unknown depth tag w m

/-- What is known of a list as a whole. -/
structure ListDetails where
  totalResult : UInt64 := 0
  processedSequence : UInt64 := 0
  viewTimestamp : Option Timestamp := none
  deriving DecidableEq, Repr, Inhabited

instance : Wire.Message ListDetails where
  empty := {}
  encode m := writeWord 1 m.totalResult ++ writeWord 2 m.processedSequence ++
    Wire.Message.writeOptional 3 m.viewTimestamp
  mergeField depth tag w m := match tag with
    | 1 => known "ListDetails" "total_result" (readWord w) fun v => { m with totalResult := v }
    | 2 => known "ListDetails" "processed_sequence" (readWord w) fun v =>
        { m with processedSequence := v }
    | 3 => known "ListDetails" "view_timestamp" (Wire.Message.mergeOptional depth w m.viewTimestamp)
        fun v => { m with viewTimestamp := v }
    | _ => unknown depth tag w m

/-- Where an object stands in the order of events, and whose it is. -/
structure ObjectDetails where
  sequence : UInt64 := 0
  creationDate : Option Timestamp := none
  changeDate : Option Timestamp := none
  resourceOwner : String := ""
  deriving DecidableEq, Repr, Inhabited

instance : Wire.Message ObjectDetails where
  empty := {}
  encode m := writeWord 1 m.sequence ++ Wire.Message.writeOptional 2 m.creationDate ++
    Wire.Message.writeOptional 3 m.changeDate ++ writeText 4 m.resourceOwner
  mergeField depth tag w m := match tag with
    | 1 => known "ObjectDetails" "sequence" (readWord w) fun v => { m with sequence := v }
    | 2 => known "ObjectDetails" "creation_date" (Wire.Message.mergeOptional depth w m.creationDate)
        fun v => { m with creationDate := v }
    | 3 => known "ObjectDetails" "change_date" (Wire.Message.mergeOptional depth w m.changeDate)
        fun v => { m with changeDate := v }
    | 4 => known "ObjectDetails" "resource_owner" (readText w) fun v => { m with resourceOwner := v }
    | _ => unknown depth tag w m

/-! ### Records of a kind known only at run time -/

inductive RecordKind where
  | empty
  | listQuery
  | listDetails
  | objectDetails
  deriving DecidableEq, Repr

inductive AnyRecord where
  | empty (m : Empty)
  | listQuery (m : ListQuery)
  | listDetails (m : ListDetails)
  | objectDetails (m : ObjectDetails)
  deriving DecidableEq, Repr

namespace AnyRecord

def blank : RecordKind → AnyRecord
  | .empty => .empty {}
  | .listQuery => .listQuery {}
  | .listDetails => .listDetails {}
  | .objectDetails => .objectDetails {}

def kind : AnyRecord → RecordKind
  | .empty _ => .empty
  | .listQuery _ => .listQuery
  | .listDetails _ => .listDetails
  | .objectDetails _ => .objectDetails

def encode : AnyRecord → Bytes
  | .empty m => Wire.Message.encode m
  | .listQuery m => Wire.Message.encode m
  | .listDetails m => Wire.Message.encode m
  | .objectDetails m => Wire.Message.encode m

def encodeDelimited (m : AnyRecord) : Bytes := Wire.writeVarint m.encode.length ++ m.encode

/-- Reads more fields into a record. -/
def merge (m : AnyRecord) (bytes : Bytes) : Except DecodeError AnyRecord :=
  match m with
  | .empty m => (Wire.Message.merge m bytes).map .empty
  | .listQuery m => (Wire.Message.merge m bytes).map .listQuery
  | .listDetails m => (Wire.Message.merge m bytes).map .listDetails
  | .objectDetails m => (Wire.Message.merge m bytes).map .objectDetails

/-- Reads pieces into one record, one after the other. -/
def mergeAll (m : AnyRecord) : List Bytes → Except DecodeError AnyRecord
  | [] => .ok m
  | piece :: pieces =>
    match m.merge piece with
    | .error e => .error e
    | .ok m => m.mergeAll pieces

def decode (k : RecordKind) (bytes : Bytes) : Except DecodeError AnyRecord := (blank k).merge bytes

def decodeDelimited (k : RecordKind) (bytes : Bytes) : Except DecodeError AnyRecord :=
  match k with
  | .empty => (Wire.Message.decodeDelimited bytes).map .empty
  | .listQuery => (Wire.Message.decodeDelimited bytes).map .listQuery
  | .listDetails => (Wire.Message.decodeDelimited bytes).map .listDetails
  | .objectDetails => (Wire.Message.decodeDelimited bytes).map .objectDetails

/-- The record with every field reset. -/
def clear (m : AnyRecord) : AnyRecord := blank m.kind

def isBlank (m : AnyRecord) : Bool := m == blank m.kind

end AnyRecord

end IdentityClient
