import Inventory.Household.Command
import Inventory.Household.Room

/-! A household and its rules. Its state is what its facts leave behind; a command is checked against that
state and accepted as one fact, whose identifiers and names are written in their one form. A fact that
breaks the rules is refused and leaves the state as it is, but for the owner, who is taken in before the
household's name is looked at. -/
namespace Inventory

structure Household where
  id : AggregateId
  owner : Option Household.UserId := none
  name : Option Household.HouseholdName := none
  rooms : Household.Rooms := .empty
deriving DecidableEq

namespace Household

def fresh (id : AggregateId) : Household :=
  { id }

def applyCreated (household : Household) (details : HouseholdDetails) : Household × Option Refusal :=
  match Id.ofText .user details.userId with
  | .error refusal => (household, some refusal)
  | .ok owner =>
      match Name.ofText .household details.name with
      | .error refusal => ({ household with owner := some owner }, some refusal)
      | .ok name =>
          ({ household with owner := some owner, name := some name, rooms := .empty }, none)

def addedRoom (rooms : Rooms) (details : RoomDetails) : Except Refusal Rooms :=
  match Room.ofText details.roomId details.name with
  | .error refusal => .error refusal
  | .ok room => rooms.add room

/-- The rooms after a change to the room that the details name. The item is looked at before the room. -/
def changedItem (change : Room → Item → Except Refusal Room) (rooms : Rooms) (details : ItemDetails) :
    Except Refusal Rooms :=
  match Item.ofText details.itemId details.name details.barcode details.quantity with
  | .error refusal => .error refusal
  | .ok item =>
      match rooms.find details.roomId with
      | .error refusal => .error refusal
      | .ok room =>
          match change room item with
          | .error refusal => .error refusal
          | .ok room => .ok (rooms.setRoom room)

def withRooms (household : Household) : Except Refusal Rooms → Household × Option Refusal
  | .error refusal => (household, some refusal)
  | .ok rooms => ({ household with rooms }, none)

/-- This is `apply_event`, for the facts of households. -/
def apply (household : Household) : Fact → Household × Option Refusal
  | .created details => household.applyCreated details
  | .roomAdded details => household.withRooms (addedRoom household.rooms details)
  | .itemAdded details => household.withRooms (changedItem Room.addItem household.rooms details)
  | .itemUpdated details => household.withRooms (changedItem Room.updateItem household.rooms details)

def createHousehold (household : Household) (created : Bool) (details : HouseholdDetails) :
    Except Refusal Fact :=
  if created then .error (.householdExists details.householdId)
  else
    match Id.ofText .user details.userId with
    | .error refusal => .error refusal
    | .ok owner =>
        match Name.ofText .household details.name with
        | .error refusal => .error refusal
        | .ok name =>
            .ok (.created
              { householdId := household.id.text, userId := owner.text, name := name.text })

def addRoom (household : Household) (details : RoomDetails) : Except Refusal Fact :=
  match Room.ofText details.roomId details.name with
  | .error refusal => .error refusal
  | .ok room =>
      match household.rooms.add room with
      | .error refusal => .error refusal
      | .ok _ =>
          .ok (.roomAdded
            { householdId := household.id.text, roomId := room.id.text, name := room.name.text })

def itemDetails (household : Household) (room : Room) (item : Item) : ItemDetails :=
  { householdId := household.id.text
    roomId := room.id.text
    itemId := item.id.text
    name := item.name.text
    barcode := item.barcode
    quantity := item.quantity }

def addItem (household : Household) (details : ItemDetails) : Except Refusal Fact :=
  match household.rooms.find details.roomId with
  | .error refusal => .error refusal
  | .ok room =>
      match Item.ofText details.itemId details.name details.barcode details.quantity with
      | .error refusal => .error refusal
      | .ok item =>
          match room.item? item.id with
          | some _ => .error (.itemExists item.id.text)
          | none => .ok (.itemAdded (household.itemDetails room item))

def updateItem (household : Household) (details : ItemDetails) : Except Refusal Fact :=
  match household.rooms.find details.roomId with
  | .error refusal => .error refusal
  | .ok room =>
      match Id.ofText .item details.itemId with
      | .error refusal => .error refusal
      | .ok id =>
          match room.item? id with
          | none => .error (.itemMissing id.text)
          | some item =>
              match item.revise details.name details.barcode details.quantity with
              | .error refusal => .error refusal
              | .ok item => .ok (.itemUpdated (household.itemDetails room item))

def whereCreated (household : Household) (created : Bool) (decided : Except Refusal Fact) :
    Except Refusal Fact :=
  if created then decided else .error (.householdMissing household.id.text)

/-- This is `handle_command`, told whether there is a history. -/
def decide (household : Household) (created : Bool) : Command → Except Refusal Fact
  | .createHousehold details => household.createHousehold created details
  | .addRoom details => household.whereCreated created (household.addRoom details)
  | .addItem details => household.whereCreated created (household.addItem details)
  | .updateItem details => household.whereCreated created (household.updateItem details)

end Household

end Inventory
