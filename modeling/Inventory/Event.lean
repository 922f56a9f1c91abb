import Inventory.Record

/-! Events: facts about one aggregate with a typed payload. An event knows the stream it belongs to, its
version there, which counts from one, and the time of its commit. -/
namespace Inventory

/-- Payloads name their own form and have a value to be stored as, unless they cannot be encoded. -/
class Payload (Data : Type) where
  eventType : Data → EventType
  encode : Data → Except Json.Flaw Json

/-- Versions are counted on in words of 64 bits: behind the greatest of them comes zero. -/
def Version.add (version count : Nat) : Nat :=
  (version + count) % UInt64.size

structure Event (Data : Type) where
  stream : StreamId
  eventType : EventType
  data : Data
  timestamp : Int
  version : Nat

namespace Event
variable {Data : Type} [Payload Data]

def of (stream : StreamId) (data : Data) (timestamp : Int) (version : Nat) : Event Data :=
  { stream, eventType := Payload.eventType data, data, timestamp, version }

/-- This is `to_record`: the payload is encoded, and everything else is taken over. -/
def toRecord (event : Event Data) : Except Fault Record :=
  match Payload.encode event.data with
  | .error flaw => .error (.undecodable flaw)
  | .ok data =>
      .ok
        { stream := event.stream
          eventType := event.eventType
          data
          timestamp := event.timestamp
          version := event.version }

def toRecords : List (Event Data) → Except Fault (List Record)
  | [] => .ok []
  | event :: rest =>
      match event.toRecord with
      | .error fault => .error fault
      | .ok record =>
          match toRecords rest with
          | .error fault => .error fault
          | .ok records => .ok (record :: records)

/-- This is `marshal`: the bytes of the record. -/
def marshal (event : Event Data) : Except Fault (List UInt8) :=
  event.toRecord.map Record.bytes

end Event

end Inventory
