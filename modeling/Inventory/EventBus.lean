import Inventory.Registry
import Inventory.Table

/-! A transport within one process: a log of encoded events that only grows, and for every group of readers
the position in the log that it reads next. A batch is published as a whole or not at all. -/
namespace Inventory

structure EventBus where
  log : List (List UInt8) := []
  offsets : Table String Nat := []
  available : Bool := true

namespace EventBus

def empty : EventBus :=
  {}

def size (bus : EventBus) : Nat :=
  bus.log.length

def offset (bus : EventBus) (group : String) : Nat :=
  (Table.find? bus.offsets group).getD 0

/-- This is `commit`: the position of a group is moved. -/
def commit (bus : EventBus) (group : String) (offset : Nat) : EventBus :=
  { bus with offsets := bus.offsets.insert group offset }

def setAvailable (bus : EventBus) (available : Bool) : EventBus :=
  { bus with available }

def unavailable : Cause :=
  ⟨"event bus unavailable", []⟩

variable {Data : Type} [Payload Data]

def messages : List (Event Data) → Except Fault (List (List UInt8))
  | [] => .ok []
  | event :: rest =>
      match event.marshal with
      | .error fault => .error fault
      | .ok message =>
          match messages rest with
          | .error fault => .error fault
          | .ok more => .ok (message :: more)

/-- This is `publish_events`, but for the wake-ups. An empty batch needs no transport; a bus that is unavailable does
not look into a batch. -/
def publish (bus : EventBus) (events : List (Event Data)) : Except Fault EventBus :=
  if events.isEmpty then .ok bus
  else if !bus.available then .error (.publish unavailable)
  else
    match messages events with
    | .error fault => .error fault
    | .ok messages => .ok { bus with log := bus.log ++ messages }

def readLog (registry : EventRegistry Data) : List (List UInt8) → Except Fault (List (Event Data))
  | [] => .ok []
  | message :: rest =>
      match registry.unmarshal message with
      | .error fault => .error fault
      | .ok event =>
          match readLog registry rest with
          | .error fault => .error fault
          | .ok events => .ok (event :: events)

/-- This is `published`: the log, decoded. -/
def published (bus : EventBus) (registry : EventRegistry Data) : Except Fault (List (Event Data)) :=
  readLog registry bus.log

end EventBus

end Inventory
