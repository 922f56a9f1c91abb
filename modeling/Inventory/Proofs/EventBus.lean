import Inventory.EventBus
import Mathlib.Tactic.Common

/-! What the operations of a bus do. A batch that is published goes to the end of the log, record by record, and an open
bus takes every batch that has records; a commit moves one group and no other. -/
namespace Inventory.EventBus

theorem offset_commit (bus : EventBus) (group other : String) (offset : Nat) :
    (bus.commit group offset).offset other = if other = group then offset else bus.offset other := by
  simp only [EventBus.offset, commit, Table.find?_insert]
  split <;> rfl

variable {Data : Type} [Payload Data]

def extend (bus : EventBus) (records : List Record) : EventBus :=
  { bus with log := bus.log ++ records.map Record.bytes }

@[simp] theorem extend_nil (bus : EventBus) : bus.extend [] = bus := by
  rw [extend, List.map_nil, List.append_nil]

theorem messages_eq (events : List (Event Data)) :
    messages events = (Event.toRecords events).map fun batch => batch.map Record.bytes := by
  induction events with
  | nil => rfl
  | cons event rest ih =>
    rw [messages, Event.toRecords, Event.marshal, ih]
    cases event.toRecord with
    | error fault => rfl
    | ok record => cases Event.toRecords rest <;> rfl

theorem publish_eq_ok {bus later : EventBus} {events : List (Event Data)}
    (done : bus.publish events = .ok later) :
    ∃ batch, Event.toRecords events = .ok batch ∧ later = bus.extend batch := by
  unfold publish at done
  split at done
  next empty =>
    cases done
    rw [List.isEmpty_iff.mp empty]
    exact ⟨[], rfl, (extend_nil bus).symm⟩
  next some =>
    split at done
    · cases done
    · rw [messages_eq] at done
      cases made : Event.toRecords events with
      | error fault =>
        rw [made] at done
        cases done
      | ok batch =>
        rw [made] at done
        cases done
        exact ⟨batch, rfl, rfl⟩

theorem publish_open {bus : EventBus} (available : bus.available = true) (events : List (Event Data)) :
    bus.publish events = (Event.toRecords events).map bus.extend := by
  unfold publish
  split
  next empty =>
    rw [List.isEmpty_iff.mp empty]
    exact congrArg Except.ok (extend_nil bus).symm
  next some =>
    rw [if_neg (by rw [available]; decide), messages_eq]
    cases Event.toRecords events <;> rfl

end Inventory.EventBus
