import Inventory.Registry

/-! An append-only store of records, held in memory. A stream's records stand in ascending order of their
versions, and among equal versions in the order of their arrival. A batch is appended as a whole or not at
all: it has to address one stream with versions that run on without gap or repeat, each of its payloads has
to have a value, and none of its versions may be claimed already. -/
namespace Inventory

structure EventStore where
  streams : Table StreamId (List Record) := []

namespace EventStore

def empty : EventStore :=
  {}

/-- This is `records`, none where nothing was ever stored. -/
def records (store : EventStore) (stream : StreamId) : List Record :=
  (store.streams.find? stream).getD []

def setRecords (store : EventStore) (stream : StreamId) (records : List Record) : EventStore :=
  ⟨store.streams.insert stream records⟩

theorem records_setRecords (store : EventStore) (stream other : StreamId) (rows : List Record) :
    (store.setRecords stream rows).records other =
      if other = stream then rows else store.records other := by
  simp only [records, setRecords, Table.find?_insert]
  by_cases same : other = stream <;> simp [same]

/-- Puts a record behind all whose version is not greater. -/
def place (record : Record) : List Record → List Record
  | [] => [record]
  | present :: rest =>
      if present.version ≤ record.version then present :: place record rest
      else record :: present :: rest

def placeAll (records : List Record) (batch : List Record) : List Record :=
  batch.foldl (fun rows record => place record rows) records

/-- This is `insert_record`: takes a record as it is, as when another writer left it there. -/
def insert (store : EventStore) (record : Record) : EventStore :=
  store.setRecords record.stream (place record (store.records record.stream))

def isClaimed (records : List Record) (version : Nat) : Bool :=
  records.any fun record => record.version = version

def firstClaimed? (records : List Record) (batch : List Record) : Option Nat :=
  (batch.find? fun record => isClaimed records record.version).map Record.version

variable {Data : Type}

namespace Batch

def severalStreams (index : Nat) : Cause :=
  ⟨"batch contains multiple aggregates (index " ++ toString index ++ ")", []⟩

def versionGap (expected index found : Nat) : Cause :=
  ⟨"batch versions are not contiguous: expected " ++ toString expected ++ " at index " ++
    toString index ++ ", got " ++ toString found, []⟩

def check (add : Nat → Nat → Nat) (stream : StreamId) (first : Nat) : Nat → List (Event Data) → Except Fault Unit
  | _, [] => .ok ()
  | index, event :: rest =>
      if event.stream ≠ stream then .error (.store (severalStreams index))
      else if event.version ≠ add first index then
        .error (.store (versionGap (add first index) index event.version))
      else check add stream first (index + 1) rest

/-- This is `batch_stream`: the one stream of a batch whose versions run on. -/
def stream (events : List (Event Data)) (add : Nat → Nat → Nat := Nat.add) : Except Fault (Option StreamId) :=
  match events with
  | [] => .ok none
  | event :: _ => (check add event.stream event.version 0 events).map fun _ => some event.stream

end Batch

variable [Payload Data]

/-- This is `store_events`. The batch is looked at, then encoded, and then held against the versions that are claimed.
-/
def append (store : EventStore) (events : List (Event Data)) (add : Nat → Nat → Nat := Nat.add) :
    Except Fault EventStore :=
  match Batch.stream events add with
  | .error fault => .error fault
  | .ok none => .ok store
  | .ok (some stream) =>
      match Event.toRecords events with
      | .error fault => .error fault
      | .ok batch =>
          match firstClaimed? (store.records stream) batch with
          | some version => .error (.conflict stream version)
          | none => .ok (store.setRecords stream (placeAll (store.records stream) batch))

/-- This is `get_events`: the records of a stream as they stand, decoded up to the first that is refused. -/
def history (store : EventStore) (registry : EventRegistry Data) (stream : StreamId) :
    Except Fault (List (Event Data)) :=
  registry.decodeRecords (store.records stream)

end EventStore

end Inventory
