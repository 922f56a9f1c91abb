import Inventory.Household.State
import Inventory.Proofs.Household.Name

/-! What a household decides it can take in. Facts carry identifiers and names in their one form, so each is
read back as what was looked at when it was decided; and as everything is kept under its own identifier, it
is found again where it was found then. -/
namespace Inventory.Household

def Room.Keyed (room : Room) : Prop :=
  ∀ id item, room.item? id = some item → item.id = id

/-- Rooms stand under their own identifiers, and so do their items. -/
def Rooms.Keyed (rooms : Rooms) : Prop :=
  ∀ id room, rooms.room? id = some room → room.id = id ∧ room.Keyed

theorem Rooms.keyed_empty : Keyed .empty :=
  fun _ _ found => nomatch found

theorem Room.item?_setItem (room : Room) (item : Item) (id : ItemId) :
    (room.setItem item).item? id = if id = item.id then some item else room.item? id :=
  Table.find?_insert room.items item.id id item

theorem Rooms.room?_setRoom (rooms : Rooms) (room : Room) (id : RoomId) :
    (rooms.setRoom room).room? id = if id = room.id then some room else rooms.room? id :=
  Table.find?_insert rooms.table room.id id room

theorem Room.Keyed.setItem {room : Room} (keyed : room.Keyed) (item : Item) : (room.setItem item).Keyed := by
  intro id other found
  rw [item?_setItem] at found
  split at found
  next same =>
    cases found
    exact same.symm
  next => exact keyed id other found

theorem Rooms.Keyed.setRoom {rooms : Rooms} (keyed : rooms.Keyed) {room : Room} (inner : room.Keyed) :
    (rooms.setRoom room).Keyed := by
  intro id other found
  rw [room?_setRoom] at found
  split at found
  next same =>
    cases found
    exact ⟨same.symm, inner⟩
  next => exact keyed id other found

theorem Item.ofText_eq_ok {id name barcode : String} {quantity : UInt32} {item : Item} :
    ofText id name barcode quantity = .ok item ↔
      ∃ itemId itemName, Id.ofText .item id = .ok itemId ∧ Name.ofText .item name = .ok itemName ∧
        item = ⟨itemId, itemName, barcode, quantity⟩ := by
  unfold ofText
  cases Id.ofText .item id with
  | error refusal => simp
  | ok itemId => cases Name.ofText .item name <;> simp [eq_comm]

theorem Room.ofText_eq_ok {id name : String} {room : Room} :
    ofText id name = .ok room ↔ ∃ roomId roomName, Id.ofText .room id = .ok roomId ∧
      Name.ofText .room name = .ok roomName ∧ room = ⟨roomId, roomName, []⟩ := by
  unfold ofText
  cases Id.ofText .room id with
  | error refusal => simp
  | ok roomId => cases Name.ofText .room name <;> simp [eq_comm]

theorem Room.items_ofText {id name : String} {room : Room} (made : ofText id name = .ok room) :
    room.items = [] := by
  obtain ⟨_, _, _, _, rfl⟩ := ofText_eq_ok.mp made
  rfl

theorem Room.addItem_eq_ok {room next : Room} {item : Item} :
    room.addItem item = .ok next ↔ room.item? item.id = none ∧ next = room.setItem item := by
  unfold addItem
  cases room.item? item.id with
  | none => simp [eq_comm]
  | some other => simp

theorem Room.updateItem_eq_ok {room next : Room} {item : Item} :
    room.updateItem item = .ok next ↔ (room.item? item.id).isSome = true ∧ next = room.setItem item := by
  unfold updateItem
  cases room.item? item.id with
  | none => simp
  | some other => simp [eq_comm]

theorem Rooms.add_eq_ok {rooms next : Rooms} {room : Room} :
    rooms.add room = .ok next ↔
      rooms.room? room.id = none ∧ rooms.named? room.name = none ∧ next = rooms.setRoom room := by
  unfold add
  cases rooms.room? room.id with
  | some other => simp
  | none => cases rooms.named? room.name <;> simp [eq_comm]

theorem Rooms.find_eq_ok {rooms : Rooms} {text : String} {room : Room} (keyed : rooms.Keyed)
    (found : rooms.find text = .ok room) :
    Id.ofText .room text = .ok room.id ∧ rooms.room? room.id = some room ∧ room.Keyed := by
  unfold find at found
  split at found
  · cases found
  next id read =>
    split at found
    · cases found
    next other there =>
      cases found
      obtain ⟨same, inner⟩ := keyed id room there
      rw [same]
      exact ⟨read, there, inner⟩

theorem Rooms.find_text {rooms : Rooms} {room : Room} (there : rooms.room? room.id = some room) :
    rooms.find room.id.text = .ok room := by
  simp only [find, Id.ofText_text, there]

/-- What can become of the rooms of a household. -/
inductive Rooms.Change (rooms : Rooms) : Rooms → Prop
  | untouched : Change rooms rooms
  | emptied : Change rooms .empty
  | room {room : Room} (free : rooms.room? room.id = none) (unnamed : rooms.named? room.name = none)
      (empty : room.items = []) : Change rooms (rooms.setRoom room)
  | item {room : Room} (there : rooms.room? room.id = some room) (item : Item) :
      Change rooms (rooms.setRoom (room.setItem item))

theorem change_addedRoom {rooms next : Rooms} {details : RoomDetails} (added : addedRoom rooms details = .ok next) :
    rooms.Change next := by
  unfold addedRoom at added
  split at added
  · cases added
  next room made =>
    obtain ⟨free, unnamed, rfl⟩ := Rooms.add_eq_ok.mp added
    exact .room free unnamed (Room.items_ofText made)

theorem changedItem_eq_ok {change : Room → Item → Except Refusal Room} {rooms next : Rooms}
    {details : ItemDetails} (changed : changedItem change rooms details = .ok next) :
    ∃ item room later, Item.ofText details.itemId details.name details.barcode details.quantity = .ok item ∧
      rooms.find details.roomId = .ok room ∧ change room item = .ok later ∧ next = rooms.setRoom later := by
  unfold changedItem at changed
  split at changed
  · cases changed
  next item made =>
    split at changed
    · cases changed
    next room found =>
      split at changed
      · cases changed
      next later done =>
        cases changed
        exact ⟨item, room, later, made, found, done, rfl⟩

theorem change_changedItem {change : Room → Item → Except Refusal Room} {rooms next : Rooms}
    {details : ItemDetails} (keyed : rooms.Keyed)
    (sets : ∀ room item later, change room item = .ok later → later = room.setItem item)
    (changed : changedItem change rooms details = .ok next) : rooms.Change next := by
  obtain ⟨item, room, later, _, found, done, rfl⟩ := changedItem_eq_ok changed
  rw [sets room item later done]
  exact .item (Rooms.find_eq_ok keyed found).2.1 item

theorem change_withRooms {household : Household} {changed : Except Refusal Rooms}
    (kinds : ∀ rooms, changed = .ok rooms → household.rooms.Change rooms) :
    household.rooms.Change (household.withRooms changed).1.rooms := by
  cases changed with
  | error refusal => exact .untouched
  | ok rooms => exact kinds rooms rfl

theorem change_apply {household : Household} (keyed : household.rooms.Keyed) (fact : Fact) :
    household.rooms.Change (household.apply fact).1.rooms := by
  cases fact with
  | created details =>
    simp only [apply, applyCreated]
    split
    · exact .untouched
    · split
      · exact .untouched
      · exact .emptied
  | roomAdded details => exact change_withRooms fun rooms added => change_addedRoom added
  | itemAdded details =>
    exact change_withRooms fun rooms changed =>
      change_changedItem keyed (fun _ _ _ added => (Room.addItem_eq_ok.mp added).2) changed
  | itemUpdated details =>
    exact change_withRooms fun rooms changed =>
      change_changedItem keyed (fun _ _ _ updated => (Room.updateItem_eq_ok.mp updated).2) changed

theorem Rooms.Change.keyed {rooms next : Rooms} (change : rooms.Change next) (keyed : rooms.Keyed) :
    next.Keyed := by
  cases change with
  | untouched => exact keyed
  | emptied => exact keyed_empty
  | room free unnamed empty =>
    apply keyed.setRoom
    intro id item found
    rw [Room.item?, empty] at found
    cases found
  | @item room there item => exact keyed.setRoom ((keyed room.id room there).2.setItem item)

theorem keyed_apply {household : Household} (keyed : household.rooms.Keyed) (fact : Fact) :
    (household.apply fact).1.rooms.Keyed :=
  (change_apply keyed fact).keyed keyed

/-- A command that is accepted, and the fact that it leads to, are taken in with the same outcome. -/
def Agrees (household : Household) (command : Command) (fact : Fact) : Prop :=
  ∃ next, household.apply fact = (next, none) ∧ household.apply command.asFact = (next, none)

theorem createHousehold_eq_ok {household : Household} {created : Bool} {details : HouseholdDetails}
    {fact : Fact} (decided : household.createHousehold created details = .ok fact) :
    created = false ∧ ∃ owner name, Id.ofText .user details.userId = .ok owner ∧
      Name.ofText .household details.name = .ok name ∧
      fact = .created ⟨household.id.text, owner.text, name.text⟩ := by
  unfold createHousehold at decided
  split at decided
  · cases decided
  next fresh =>
    split at decided
    · cases decided
    next owner read =>
      split at decided
      · cases decided
      next name named =>
        cases decided
        exact ⟨Bool.eq_false_iff.mpr fresh, owner, name, read, named, rfl⟩

theorem agrees_createHousehold {household : Household} {created : Bool} {details : HouseholdDetails}
    {fact : Fact} (decided : household.createHousehold created details = .ok fact) :
    created = false ∧ fact.eventType = Fact.createdType ∧
      household.Agrees (.createHousehold details) fact := by
  obtain ⟨fresh, owner, name, read, named, rfl⟩ := createHousehold_eq_ok decided
  refine ⟨fresh, rfl, { household with owner := some owner, name := some name, rooms := .empty }, ?_, ?_⟩
  · simp only [apply, applyCreated, Id.ofText_text, Name.ofText_text]
  · simp only [apply, Command.asFact, applyCreated, read, named]

theorem addRoom_eq_ok {household : Household} {details : RoomDetails} {fact : Fact}
    (decided : household.addRoom details = .ok fact) :
    ∃ room rooms, Room.ofText details.roomId details.name = .ok room ∧ household.rooms.add room = .ok rooms ∧
      fact = .roomAdded ⟨household.id.text, room.id.text, room.name.text⟩ ∧
        household.apply fact = ({ household with rooms }, none) := by
  unfold addRoom at decided
  split at decided
  · cases decided
  next room made =>
    split at decided
    · cases decided
    next rooms added =>
      cases decided
      have same : ({ id := room.id, name := room.name, items := [] } : Room) = room := by
        rw [← Room.items_ofText made]
      refine ⟨room, rooms, made, added, rfl, ?_⟩
      simp only [apply, addedRoom, Room.ofText_text, same, added, withRooms]

theorem agrees_addRoom {household : Household} {details : RoomDetails} {fact : Fact}
    (decided : household.addRoom details = .ok fact) :
    fact.eventType ≠ Fact.createdType ∧ household.Agrees (.addRoom details) fact := by
  obtain ⟨room, rooms, made, added, rfl, applied⟩ := addRoom_eq_ok decided
  refine ⟨show Fact.roomAddedType ≠ Fact.createdType by decide, _, applied, ?_⟩
  simp only [apply, Command.asFact, addedRoom, made, added, withRooms]

theorem apply_changedItem {change : Room → Item → Except Refusal Room} {household : Household}
    {room later : Room} {item : Item} {details : ItemDetails} (keyed : household.rooms.Keyed)
    (found : household.rooms.find details.roomId = .ok room)
    (made : Item.ofText details.itemId details.name details.barcode details.quantity = .ok item)
    (changed : change room item = .ok later) :
    household.withRooms (changedItem change household.rooms (household.itemDetails room item)) =
        ({ household with rooms := household.rooms.setRoom later }, none) ∧
      household.withRooms (changedItem change household.rooms details) =
        ({ household with rooms := household.rooms.setRoom later }, none) := by
  have there := (Rooms.find_eq_ok keyed found).2.1
  constructor
  · simp only [changedItem, itemDetails, Item.ofText_text, Rooms.find_text there, changed, withRooms]
  · simp only [changedItem, made, found, changed, withRooms]

theorem addItem_eq_ok {household : Household} {details : ItemDetails} {fact : Fact}
    (decided : household.addItem details = .ok fact) :
    ∃ room item, household.rooms.find details.roomId = .ok room ∧
      Item.ofText details.itemId details.name details.barcode details.quantity = .ok item ∧
      room.addItem item = .ok (room.setItem item) ∧ fact = .itemAdded (household.itemDetails room item) := by
  unfold addItem at decided
  split at decided
  · cases decided
  next room found =>
    split at decided
    · cases decided
    next item made =>
      split at decided
      · cases decided
      next free =>
        cases decided
        exact ⟨room, item, found, made, Room.addItem_eq_ok.mpr ⟨free, rfl⟩, rfl⟩

theorem updateItem_eq_ok {household : Household} {details : ItemDetails} {fact : Fact}
    (keyed : household.rooms.Keyed) (decided : household.updateItem details = .ok fact) :
    ∃ room item, household.rooms.find details.roomId = .ok room ∧
      Item.ofText details.itemId details.name details.barcode details.quantity = .ok item ∧
      room.updateItem item = .ok (room.setItem item) ∧ fact = .itemUpdated (household.itemDetails room item) := by
  unfold updateItem at decided
  split at decided
  · cases decided
  next room found =>
    split at decided
    · cases decided
    next id read =>
      split at decided
      · cases decided
      next old present =>
        split at decided
        · cases decided
        next item revised =>
          cases decided
          have same : old.id = id := (Rooms.find_eq_ok keyed found).2.2 id old present
          unfold Item.revise at revised
          split at revised
          · cases revised
          next name named =>
            cases revised
            refine ⟨room, _, found, ?_, Room.updateItem_eq_ok.mpr ⟨?_, rfl⟩, rfl⟩
            · simp only [Item.ofText, read, named, same]
            · change (room.item? old.id).isSome = true
              rw [same, present]
              rfl

theorem agrees_addItem {household : Household} {details : ItemDetails} {fact : Fact}
    (keyed : household.rooms.Keyed) (decided : household.addItem details = .ok fact) :
    fact.eventType ≠ Fact.createdType ∧ household.Agrees (.addItem details) fact := by
  obtain ⟨room, item, found, made, added, rfl⟩ := addItem_eq_ok decided
  exact ⟨show Fact.itemAddedType ≠ Fact.createdType by decide, _, apply_changedItem keyed found made added⟩

theorem agrees_updateItem {household : Household} {details : ItemDetails} {fact : Fact}
    (keyed : household.rooms.Keyed) (decided : household.updateItem details = .ok fact) :
    fact.eventType ≠ Fact.createdType ∧ household.Agrees (.updateItem details) fact := by
  obtain ⟨room, item, found, made, updated, rfl⟩ := updateItem_eq_ok keyed decided
  exact ⟨show Fact.itemUpdatedType ≠ Fact.createdType by decide, _, apply_changedItem keyed found made updated⟩

theorem whereCreated_eq_ok {household : Household} {created : Bool} {attempt : Except Refusal Fact} {fact : Fact}
    (passed : household.whereCreated created attempt = .ok fact) : created = true ∧ attempt = .ok fact := by
  unfold whereCreated at passed
  split at passed
  next history => exact ⟨history, passed⟩
  next => cases passed

/-- What is decided can be taken in, and it is a creation just where there was no history. -/
theorem agrees_decide {household : Household} {created : Bool} {command : Command} {fact : Fact}
    (keyed : household.rooms.Keyed) (decided : household.decide created command = .ok fact) :
    (fact.eventType = Fact.createdType ↔ created = false) ∧ household.Agrees command fact := by
  cases command with
  | createHousehold details =>
    obtain ⟨fresh, type, agrees⟩ := agrees_createHousehold decided
    exact ⟨iff_of_true type fresh, agrees⟩
  | addRoom details =>
    obtain ⟨rfl, added⟩ := whereCreated_eq_ok decided
    obtain ⟨type, agrees⟩ := agrees_addRoom added
    exact ⟨iff_of_false type (by decide), agrees⟩
  | addItem details =>
    obtain ⟨rfl, added⟩ := whereCreated_eq_ok decided
    obtain ⟨type, agrees⟩ := agrees_addItem keyed added
    exact ⟨iff_of_false type (by decide), agrees⟩
  | updateItem details =>
    obtain ⟨rfl, updated⟩ := whereCreated_eq_ok decided
    obtain ⟨type, agrees⟩ := agrees_updateItem keyed updated
    exact ⟨iff_of_false type (by decide), agrees⟩

end Inventory.Household
