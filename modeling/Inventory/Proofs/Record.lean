import Inventory.Proofs.Json.Streaming
import Inventory.EventBus

/-! Records, and with them events and logs, come back from the bytes they travel as. -/
namespace Inventory

/-- A record that its text spells in full: the payload can stand inside an object, and the numbers have the sixty-four
bits that a reader gives them. -/
structure Record.Portable (record : Record) : Prop where
  data : Json.Portable 126 record.data
  timestamp : Json.Kind.integer64.Fits record.timestamp
  version : Json.Kind.natural64.Fits record.version

theorem Record.bytes_eq (record : Record) : record.bytes = Text.utf8 record.printChars := by
  rw [bytes, print, Text.toList_toUTF8]

theorem Record.read_bytes {record : Record} (portable : record.Portable) : read record.bytes = .ok record := by
  have fits : Json.Row.Fits shape.fields record.row :=
    ⟨trivial, trivial, trivial, trivial, portable.timestamp, portable.version, trivial⟩
  have inside : ∀ entry ∈ Json.Row.members shape.fields record.row, Json.Portable 126 entry.2 := by
    have text (value : String) : Json.Portable 126 (.text value) := ⟨trivial, trivial, Nat.zero_le _⟩
    simp only [shape, row, Json.Row.members, List.forall_mem_cons]
    exact ⟨text _, text _, text _, portable.data,
      Json.Kind.integer64.portable_encode (by decide) portable.timestamp 126,
      Json.Kind.natural64.portable_encode (by decide) portable.version 126, List.forall_mem_nil _⟩
  rw [read, bytes_eq, Record.printChars, shape.read_printMembers record.row (by decide) fits inside]
  rfl

theorem EventRegistry.unmarshal_bytes {Data : Type} [Payload Data] (registry : EventRegistry Data)
    {record : Record} (portable : record.Portable) :
    registry.unmarshal record.bytes = registry.decodeRecord record := by
  rw [unmarshal, Record.read_bytes portable]

theorem EventBus.readLog_bytes {Data : Type} [Payload Data] (registry : EventRegistry Data) {records : List Record}
    (portable : ∀ record ∈ records, record.Portable) :
    readLog registry (records.map Record.bytes) = registry.decodeRecords records := by
  induction records with
  | nil => rfl
  | cons record rest ih =>
    obtain ⟨first, others⟩ := List.forall_mem_cons.mp portable
    rewrite [List.map_cons, readLog, EventRegistry.decodeRecords, registry.unmarshal_bytes first, ih others]
    cases registry.decodeRecord record with
    | error fault => rfl
    | ok event => cases registry.decodeRecords rest <;> rfl

end Inventory
