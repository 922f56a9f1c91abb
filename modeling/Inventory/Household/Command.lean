import Inventory.Aggregate
import Inventory.Household.Fact

/-! Commands to a household. They arrive unchecked; the household decides on them against its state. The
requests that adapters hand over as values carry the same details, and an item's barcode may be left out
of them. -/
namespace Inventory.Household

def aggregateType : AggregateType :=
  ⟨"HouseholdAggregate"⟩

inductive Command where
  | createHousehold (details : HouseholdDetails)
  | addRoom (details : RoomDetails)
  | addItem (details : ItemDetails)
  | updateItem (details : ItemDetails)
deriving DecidableEq, Repr

namespace Command

def name : Command → String
  | .createHousehold _ => "CreateHousehold"
  | .addRoom _ => "AddRoom"
  | .addItem _ => "AddItem"
  | .updateItem _ => "UpdateItem"

def householdId : Command → String
  | .createHousehold details => details.householdId
  | .addRoom details => details.householdId
  | .addItem details | .updateItem details => details.householdId

def stream (command : Command) : StreamId :=
  ⟨aggregateType, ⟨command.householdId⟩⟩

/-- The fact that would say just what the command says. -/
def asFact : Command → Fact
  | .createHousehold details => .created details
  | .addRoom details => .roomAdded details
  | .addItem details => .itemAdded details
  | .updateItem details => .itemUpdated details

def decodeCreateHousehold (value : Json) : Except Json.Flaw Command :=
  (HouseholdDetails.decode "CreateHouseholdData" value).map .createHousehold

def decodeAddRoom (value : Json) : Except Json.Flaw Command :=
  (RoomDetails.decode "AddRoomData" value).map .addRoom

def decodeAddItem (value : Json) : Except Json.Flaw Command :=
  (ItemDetails.decode "ItemData" (some "") value).map .addItem

def decodeUpdateItem (value : Json) : Except Json.Flaw Command :=
  (ItemDetails.decode "ItemData" (some "") value).map .updateItem

end Command

end Inventory.Household
