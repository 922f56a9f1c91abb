import Inventory.Household.Name
import Inventory.Table

/-! Rooms and the items in them. A room keeps its items under their identifiers, and a household its rooms
under theirs; no two rooms of a household have one name. -/
namespace Inventory.Household

structure Item where
  id : ItemId
  name : ItemName
  barcode : String
  quantity : UInt32
deriving DecidableEq

namespace Item

/-- An item from what was typed in; the identifier is looked at before the name. -/
def ofText (id name barcode : String) (quantity : UInt32) : Except Refusal Item :=
  match Id.ofText .item id with
  | .error refusal => .error refusal
  | .ok id =>
      match Name.ofText .item name with
      | .error refusal => .error refusal
      | .ok name => .ok { id, name, barcode, quantity }

def revise (item : Item) (name barcode : String) (quantity : UInt32) : Except Refusal Item :=
  match Name.ofText .item name with
  | .error refusal => .error refusal
  | .ok name => .ok { id := item.id, name, barcode, quantity }

end Item

structure Room where
  id : RoomId
  name : RoomName
  items : Table ItemId Item
deriving DecidableEq

namespace Room

def ofText (id name : String) : Except Refusal Room :=
  match Id.ofText .room id with
  | .error refusal => .error refusal
  | .ok id =>
      match Name.ofText .room name with
      | .error refusal => .error refusal
      | .ok name => .ok { id, name, items := [] }

def item? (room : Room) (id : ItemId) : Option Item :=
  room.items.find? id

def setItem (room : Room) (item : Item) : Room :=
  { room with items := room.items.insert item.id item }

def addItem (room : Room) (item : Item) : Except Refusal Room :=
  match room.item? item.id with
  | some _ => .error (.itemExists item.id.text)
  | none => .ok (room.setItem item)

def updateItem (room : Room) (item : Item) : Except Refusal Room :=
  match room.item? item.id with
  | none => .error (.itemMissing item.id.text)
  | some _ => .ok (room.setItem item)

end Room

structure Rooms where
  table : Table RoomId Room := []
deriving DecidableEq

namespace Rooms

def empty : Rooms :=
  {}

def room? (rooms : Rooms) (id : RoomId) : Option Room :=
  rooms.table.find? id

def toList (rooms : Rooms) : List Room :=
  rooms.table.values

def named? (rooms : Rooms) (name : RoomName) : Option Room :=
  rooms.toList.find? fun room => room.name = name

def setRoom (rooms : Rooms) (room : Room) : Rooms :=
  ⟨rooms.table.insert room.id room⟩

def add (rooms : Rooms) (room : Room) : Except Refusal Rooms :=
  match rooms.room? room.id with
  | some _ => .error (.roomExists room.id.text)
  | none =>
      match rooms.named? room.name with
      | some _ => .error (.roomNameTaken room.name.text)
      | none => .ok (rooms.setRoom room)

def find (rooms : Rooms) (id : String) : Except Refusal Room :=
  match Id.ofText .room id with
  | .error refusal => .error refusal
  | .ok id =>
      match rooms.room? id with
      | none => .error (.roomMissing id.text)
      | some room => .ok room

end Rooms

end Inventory.Household
