import Inventory.Proofs.EventStore
import Inventory.Proofs.Household.Fact
import Inventory.Proofs.Record

/-! Facts come back from the bytes they are sent as, and from the rows they are stored as. -/
namespace Inventory.Household

theorem portable_fact (fact : Fact) : Json.Portable 1 fact.encode := by
  cases fact with
  | created details | roomAdded details =>
    exact Json.Shape.portable_encode (by decide) ⟨trivial, trivial, trivial, trivial⟩
  | itemAdded details | itemUpdated details =>
    exact Json.Shape.portable_encode (by decide)
      ⟨trivial, trivial, trivial, trivial, trivial, trivial, trivial⟩

def recordOf (stream : StreamId) (fact : Fact) (timestamp : Int) (version : Nat) : Record :=
  ⟨stream, fact.eventType, fact.encode, timestamp, version⟩

theorem portable_recordOf (stream : StreamId) (fact : Fact) {timestamp : Int} {version : Nat}
    (timestampFits : Json.Kind.integer64.Fits timestamp) (versionFits : Json.Kind.natural64.Fits version) :
    (recordOf stream fact timestamp version).Portable where
  data :=
    { proper := (portable_fact fact).proper
      floatFree := (portable_fact fact).floatFree
      depth_le := Nat.le_trans (portable_fact fact).depth_le (by decide) }
  timestamp := timestampFits
  version := versionFits

theorem toRecords_stamped {stream : StreamId} {version : Nat} {events : List (Event Fact)}
    (stamped : Event.Stamped stream version events) :
    Event.toRecords events =
      .ok (events.map fun event => recordOf stream event.data event.timestamp event.version) := by
  induction events generalizing version with
  | nil => rfl
  | cons event rest ih =>
    obtain ⟨here, others⟩ := stamped
    have made : event.toRecord = .ok (recordOf stream event.data event.timestamp event.version) := by
      rw [here]
      rfl
    rw [Event.toRecords, made, ih others]
    rfl

variable {before registry : EventRegistry Fact}

theorem decodeRecord_recordOf (filled : before.registerAll Part.whole.kinds = (registry, none))
    (stream : StreamId) (fact : Fact) (timestamp : Int) (version : Nat) :
    registry.decodeRecord (recordOf stream fact timestamp version) =
      .ok (Event.of stream fact timestamp version) := by
  obtain ⟨value, encoded, decoded⟩ := keeps_of_filled filled fact
  cases encoded
  have back : registry.decode fact.eventType fact.encode = .ok fact := decoded
  simp only [recordOf, EventRegistry.decodeRecord, back]
  rfl

/-- Whatever texts, quantities, times and versions it carries, an event of a household comes back as it was, from its
bytes and from its row. -/
theorem roundTrip_event (filled : before.registerAll Part.whole.kinds = (registry, none)) (stream : StreamId)
    (fact : Fact) (timestamp : Int64) (version : UInt64) :
    (∃ bytes, (Event.of stream fact timestamp.toInt version.toNat).marshal = .ok bytes ∧
        registry.unmarshal bytes = .ok (Event.of stream fact timestamp.toInt version.toNat)) ∧
      ∃ record, (Event.of stream fact timestamp.toInt version.toNat).toRecord = .ok record ∧
        registry.decodeRecord record = .ok (Event.of stream fact timestamp.toInt version.toNat) := by
  have portable := portable_recordOf stream fact
    (show Json.Kind.integer64.Fits timestamp.toInt from ⟨Int64.le_toInt timestamp, Int64.toInt_lt timestamp⟩)
    (show Json.Kind.natural64.Fits version.toNat from UInt64.toNat_lt version)
  have decoded := decodeRecord_recordOf filled stream fact timestamp.toInt version.toNat
  refine ⟨⟨(recordOf stream fact timestamp.toInt version.toNat).bytes, rfl, ?_⟩, _, rfl, decoded⟩
  rw [registry.unmarshal_bytes portable]
  exact decoded

theorem roundTrip_event_fresh :
    EventRegistry.empty.registerAll Part.whole.kinds = (eventRegistry, none) ∧
      ∃ bytes, (Event.of ⟨⟨"Household"⟩, ⟨"h\u0001\"\\𝄞"⟩⟩
          (Fact.itemAdded ⟨"h", "r", "i", "\u0000/\"", "\\é", 4294967295⟩) (-1) 18446744073709551615).marshal =
            .ok bytes ∧
        eventRegistry.unmarshal bytes = .ok (Event.of ⟨⟨"Household"⟩, ⟨"h\u0001\"\\𝄞"⟩⟩
          (Fact.itemAdded ⟨"h", "r", "i", "\u0000/\"", "\\é", 4294967295⟩) (-1) 18446744073709551615) :=
  ⟨rfl, (roundTrip_event (show EventRegistry.empty.registerAll _ = (eventRegistry, none) from rfl)
    ⟨⟨"Household"⟩, ⟨"h\u0001\"\\𝄞"⟩⟩ (.itemAdded ⟨"h", "r", "i", "\u0000/\"", "\\é", 4294967295⟩)
    (-1) 18446744073709551615).1⟩

end Inventory.Household
