import Inventory.Household.Part
import Inventory.Proofs.EventStore
import Inventory.Proofs.Json.Shape
import Inventory.Proofs.Registry

/-! Facts come back from their stored form, whatever texts and quantities they carry. -/
namespace Inventory.Household

theorem HouseholdDetails.decode_encode (title : String) (details : HouseholdDetails) :
    decode title (details.encode title) = .ok details := by
  have whole := (shape title).decode_encode (details.householdId, details.userId, details.name, ())
    (show ["householdId", "userId", "name"].Nodup by decide) ⟨trivial, trivial, trivial, trivial⟩
  rw [decode, encode, whole]

theorem RoomDetails.decode_encode (title : String) (details : RoomDetails) :
    decode title (details.encode title) = .ok details := by
  have whole := (shape title).decode_encode (details.householdId, details.roomId, details.name, ())
    (show ["householdId", "roomId", "name"].Nodup by decide) ⟨trivial, trivial, trivial, trivial⟩
  rw [decode, encode, whole]

theorem ItemDetails.decode_encode (title : String) (details : ItemDetails) :
    decode title none (details.encode title) = .ok details := by
  have whole := (shape title none).decode_encode (details.householdId, details.roomId, details.itemId,
    details.name, details.barcode, details.quantity, ())
    (show ["householdId", "roomId", "itemId", "name", "barcode", "quantity"].Nodup by decide)
    ⟨trivial, trivial, trivial, trivial, trivial, trivial, trivial⟩
  rw [decode, encode, whole]

/-- The types of events that a system of households alone knows. -/
def eventRegistry : EventRegistry Fact :=
  (Part.whole.register (fun household => household) .empty .empty).1

def aggregateRegistry : AggregateRegistry Household Fact :=
  (Part.whole.register (fun household => household) .empty .empty).2.1

section Filled
variable {before registry : EventRegistry Fact}

theorem decode_registered (filled : before.registerAll Part.whole.kinds = (registry, none)) {Details : Type}
    {eventType : EventType} {decode : Json → Except Json.Flaw Details} {make : Details → Fact}
    {typed : ∀ details, Payload.eventType (make details) = eventType}
    (member : EventKind.of eventType decode make typed ∈ Fact.kinds) {value : Json} {details : Details}
    (decoded : decode value = .ok details) : registry.decode eventType value = .ok (make details) := by
  have found : registry.find? eventType = some (Part.whole.kind (.of eventType decode make typed)) :=
    EventRegistry.find?_registerAll filled (List.mem_map_of_mem member)
  rw [EventRegistry.decode, found]
  simp only [Part.kind, EventKind.of, decoded]
  rfl

theorem keeps_of_filled (filled : before.registerAll Part.whole.kinds = (registry, none)) (fact : Fact) :
    registry.Keeps fact := by
  refine ⟨fact.encode, rfl, ?_⟩
  cases fact with
  | created details =>
    exact decode_registered filled (.head _) (details.decode_encode Fact.createdType.text)
  | roomAdded details =>
    exact decode_registered filled (.tail _ (.head _)) (details.decode_encode Fact.roomAddedType.text)
  | itemAdded details =>
    exact decode_registered filled (.tail _ (.tail _ (.head _)))
      (details.decode_encode Fact.itemAddedType.text)
  | itemUpdated details =>
    exact decode_registered filled (.tail _ (.tail _ (.tail _ (.head _))))
      (details.decode_encode Fact.itemUpdatedType.text)

end Filled

theorem keeps_fact (fact : Fact) : eventRegistry.Keeps fact :=
  keeps_of_filled (show EventRegistry.empty.registerAll _ = (_, none) from rfl) fact

end Inventory.Household
