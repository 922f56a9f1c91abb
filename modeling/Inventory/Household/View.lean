import Inventory.Household.State

/-! Households as values for whoever looks at them from outside: what is not known yet is null, and rooms and
items stand in the order of their identifiers. -/
namespace Inventory

namespace Household

def Item.view (item : Item) : Json :=
  .ofMembers
    [("id", .text item.id.text), ("name", .text item.name.text), ("barcode", .text item.barcode),
      ("quantity", .natural item.quantity.toNat)]

def Room.view (room : Room) : Json :=
  .ofMembers
    [("id", .text room.id.text), ("name", .text room.name.text),
      ("items", .array (room.items.values.map Item.view))]

def Rooms.view (rooms : Rooms) : Json :=
  .array (rooms.toList.map Room.view)

def ItemDetails.view (item : ItemDetails) : Json :=
  item.encode "Item"

end Household

def Household.view (household : Household) : Json :=
  .ofMembers
    [("id", .text household.id.text),
      ("userId", (household.owner.map fun id => Json.text id.text).getD .null),
      ("name", (household.name.map fun name => Json.text name.text).getD .null),
      ("rooms", household.rooms.view)]

end Inventory
