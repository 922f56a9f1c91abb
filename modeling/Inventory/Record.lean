import Inventory.Fault
import Inventory.Json.Streaming

/-! A record is the stored and transmitted form of an event: its stream, the name of its payload's form, the
payload as a value, the time of its commit and its version. As text it is an object whose members stand in
the order of declaration, while those of the payload stand in key order. -/
namespace Inventory

structure Record where
  stream : StreamId
  eventType : EventType
  data : Json
  timestamp : Int
  version : Nat

namespace Record

def shape : Json.Shape where
  title := "EventRecord"
  fields := [⟨"aggregateType", .text, none⟩, ⟨"aggregateId", .text, none⟩, ⟨"eventType", .text, none⟩,
    ⟨"eventData", .any, none⟩, ⟨"timestamp", .integer64, none⟩, ⟨"version", .natural64, none⟩]

def ofRow : Json.Row shape.fields → Record
  | (aggregateType, aggregateId, eventType, data, timestamp, version, ()) =>
      { stream := ⟨⟨aggregateType⟩, ⟨aggregateId⟩⟩, eventType := ⟨eventType⟩, data, timestamp, version }

def row (record : Record) : Json.Row shape.fields :=
  (record.stream.aggregateType.text, record.stream.aggregateId.text, record.eventType.text, record.data,
    record.timestamp, record.version, ())

@[simp] theorem ofRow_row (record : Record) : ofRow record.row = record := rfl

def decode (value : Json) : Except Fault Record :=
  match shape.decode value with
  | .error flaw => .error (.undecodable flaw)
  | .ok row => .ok (ofRow row)

def encode (record : Record) : Json :=
  shape.encode record.row

def read (bytes : List UInt8) : Except Fault Record :=
  match shape.read bytes with
  | .error flaw => .error (.unreadable flaw)
  | .ok row => .ok (ofRow row)

def printChars (record : Record) : List Char :=
  '\x7b' :: Json.printMembers (Json.Row.members shape.fields record.row)

def print (record : Record) : String :=
  String.ofList record.printChars

def bytes (record : Record) : List UInt8 :=
  record.print.toUTF8.toList

end Record

end Inventory
