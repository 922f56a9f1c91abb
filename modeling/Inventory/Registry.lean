import Inventory.Event

/-! The registry of event types tells by a record's event type how its payload is decoded. A type is
registered once; a second registration fails and leaves the first in force. What a registered decoder
yields is always of the type it was registered for. -/
namespace Inventory

structure EventKind (Data : Type) [Payload Data] where
  eventType : EventType
  decode : Json → Except Json.Flaw Data
  faithful : ∀ value data, decode value = .ok data → Payload.eventType data = eventType

def EventKind.of {Data Value : Type} [Payload Data] (eventType : EventType)
    (decode : Json → Except Json.Flaw Value) (make : Value → Data)
    (typed : ∀ value, Payload.eventType (make value) = eventType) : EventKind Data where
  eventType := eventType
  decode value := (decode value).map make
  faithful value data success := by
    cases decoded : decode value with
    | error flaw =>
        rw [decoded] at success
        cases success
    | ok content =>
        rw [decoded] at success
        cases success
        exact typed content

structure EventRegistry (Data : Type) [Payload Data] where
  kinds : List (EventKind Data) := []

namespace EventRegistry
variable {Data : Type} [Payload Data]

def empty : EventRegistry Data :=
  {}

def find? (registry : EventRegistry Data) (eventType : EventType) : Option (EventKind Data) :=
  registry.kinds.find? fun kind => kind.eventType = eventType

def contains (registry : EventRegistry Data) (eventType : EventType) : Bool :=
  (registry.find? eventType).isSome

def size (registry : EventRegistry Data) : Nat :=
  registry.kinds.length

/-- This is `register` with a decoder of its own. -/
def register (registry : EventRegistry Data) (kind : EventKind Data) :
    Except Fault (EventRegistry Data) :=
  if registry.contains kind.eventType then .error (.repeatedEventType kind.eventType)
  else .ok ⟨registry.kinds ++ [kind]⟩

/-- Registers one kind after the other up to the first fault; what came before it stays registered. -/
def registerAll (registry : EventRegistry Data) :
    List (EventKind Data) → EventRegistry Data × Option Fault
  | [] => (registry, none)
  | kind :: rest =>
      match registry.register kind with
      | .error fault => (registry, some fault)
      | .ok registry => registry.registerAll rest

def decode (registry : EventRegistry Data) (eventType : EventType) (value : Json) :
    Except Fault Data :=
  match registry.find? eventType with
  | none => .error (.unknownEventType eventType)
  | some kind =>
      match kind.decode value with
      | .error flaw => .error (.undecodable flaw)
      | .ok data => .ok data

/-- This is `decode_record`. The event keeps the type that its record names. -/
def decodeRecord (registry : EventRegistry Data) (record : Record) : Except Fault (Event Data) :=
  match registry.decode record.eventType record.data with
  | .error fault => .error fault
  | .ok data =>
      .ok
        { stream := record.stream
          eventType := record.eventType
          data
          timestamp := record.timestamp
          version := record.version }

def decodeRecords (registry : EventRegistry Data) :
    List Record → Except Fault (List (Event Data))
  | [] => .ok []
  | record :: rest =>
      match registry.decodeRecord record with
      | .error fault => .error fault
      | .ok event =>
          match registry.decodeRecords rest with
          | .error fault => .error fault
          | .ok events => .ok (event :: events)

/-- This is `unmarshal_event`: the record is read from its bytes and then decoded. -/
def unmarshal (registry : EventRegistry Data) (bytes : List UInt8) : Except Fault (Event Data) :=
  match Record.read bytes with
  | .error fault => .error fault
  | .ok record => registry.decodeRecord record

end EventRegistry

end Inventory
