import Inventory.Registry

/-! What can happen in a household: it is created, a room is added, an item is added or updated. Facts and
the commands that lead to them carry the same details, as plain texts. -/
namespace Inventory.Household

structure HouseholdDetails where
  householdId : String
  userId : String
  name : String
deriving DecidableEq, Repr

structure RoomDetails where
  householdId : String
  roomId : String
  name : String
deriving DecidableEq, Repr

structure ItemDetails where
  householdId : String
  roomId : String
  itemId : String
  name : String
  barcode : String
  quantity : UInt32
deriving DecidableEq, Repr

def HouseholdDetails.shape (title : String) : Json.Shape :=
  ⟨title, [⟨"householdId", .text, none⟩, ⟨"userId", .text, none⟩, ⟨"name", .text, none⟩]⟩

def HouseholdDetails.decode (title : String) (value : Json) : Except Json.Flaw HouseholdDetails :=
  match (shape title).decode value with
  | .error flaw => .error flaw
  | .ok (householdId, userId, name, ()) => .ok { householdId, userId, name }

def HouseholdDetails.encode (title : String) (details : HouseholdDetails) : Json :=
  (shape title).encode (details.householdId, details.userId, details.name, ())

def RoomDetails.shape (title : String) : Json.Shape :=
  ⟨title, [⟨"householdId", .text, none⟩, ⟨"roomId", .text, none⟩, ⟨"name", .text, none⟩]⟩

def RoomDetails.decode (title : String) (value : Json) : Except Json.Flaw RoomDetails :=
  match (shape title).decode value with
  | .error flaw => .error flaw
  | .ok (householdId, roomId, name, ()) => .ok { householdId, roomId, name }

def RoomDetails.encode (title : String) (details : RoomDetails) : Json :=
  (shape title).encode (details.householdId, details.roomId, details.name, ())

/-- The barcode may have to be there or may be left out. -/
def ItemDetails.shape (title : String) (barcode : Option String) : Json.Shape :=
  ⟨title, [⟨"householdId", .text, none⟩, ⟨"roomId", .text, none⟩, ⟨"itemId", .text, none⟩,
    ⟨"name", .text, none⟩, ⟨"barcode", .text, barcode⟩, ⟨"quantity", .natural32, none⟩]⟩

def ItemDetails.decode (title : String) (barcode : Option String) (value : Json) :
    Except Json.Flaw ItemDetails :=
  match (shape title barcode).decode value with
  | .error flaw => .error flaw
  | .ok (householdId, roomId, itemId, name, barcode, quantity, ()) =>
      .ok { householdId, roomId, itemId, name, barcode, quantity }

def ItemDetails.encode (title : String) (details : ItemDetails) : Json :=
  (shape title none).encode (details.householdId, details.roomId, details.itemId, details.name,
    details.barcode, details.quantity, ())

inductive Fact where
  | created (details : HouseholdDetails)
  | roomAdded (details : RoomDetails)
  | itemAdded (details : ItemDetails)
  | itemUpdated (details : ItemDetails)
deriving DecidableEq, Repr

namespace Fact

def createdType : EventType :=
  ⟨"HouseholdCreatedEvent"⟩

def roomAddedType : EventType :=
  ⟨"RoomAddedEvent"⟩

def itemAddedType : EventType :=
  ⟨"ItemAddedEvent"⟩

def itemUpdatedType : EventType :=
  ⟨"ItemUpdatedEvent"⟩

def eventType : Fact → EventType
  | .created _ => createdType
  | .roomAdded _ => roomAddedType
  | .itemAdded _ => itemAddedType
  | .itemUpdated _ => itemUpdatedType

def encode : Fact → Json
  | .created details => details.encode createdType.text
  | .roomAdded details => details.encode roomAddedType.text
  | .itemAdded details => details.encode itemAddedType.text
  | .itemUpdated details => details.encode itemUpdatedType.text

instance : Payload Fact where
  eventType := eventType
  encode fact := .ok fact.encode

def kinds : List (EventKind Fact) :=
  [.of createdType (HouseholdDetails.decode createdType.text) .created fun _ => rfl,
    .of roomAddedType (RoomDetails.decode roomAddedType.text) .roomAdded fun _ => rfl,
    .of itemAddedType (ItemDetails.decode itemAddedType.text none) .itemAdded fun _ => rfl,
    .of itemUpdatedType (ItemDetails.decode itemUpdatedType.text none) .itemUpdated fun _ => rfl]

end Fact

end Inventory.Household
