import Inventory.Household.Projection
import Inventory.Proofs.Household.History

/-! What a household has in its rooms. A decided fact about an item puts the item in its place and changes nothing
else, and items never go away. So what there is to see of an item in a room is what the last fact about it says. -/
namespace Inventory.Household

/-- What there is to see of an item in a room. -/
def details? (household : Household) (roomId : RoomId) (itemId : ItemId) : Option ItemDetails :=
  match household.rooms.room? roomId with
  | none => none
  | some room => (room.item? itemId).map (household.itemDetails room)

/-- These details are about this item in this room. -/
def ItemDetails.isOf (details : ItemDetails) (roomId : RoomId) (itemId : ItemId) : Bool :=
  details.roomId = roomId.text ∧ details.itemId = itemId.text

theorem Id.text_inj {kind : IdKind} {first second : Id kind} : first.text = second.text ↔ first = second := by
  refine ⟨fun same => ?_, congrArg Id.text⟩
  have read := congrArg (ofText kind) same
  rw [ofText_text, ofText_text] at read
  exact Except.ok.inj read

theorem isOf_itemDetails (household : Household) (room : Room) (item : Item) (roomId : RoomId) (itemId : ItemId) :
    (household.itemDetails room item).isOf roomId itemId = true ↔ room.id = roomId ∧ item.id = itemId := by
  simp [ItemDetails.isOf, itemDetails, Id.text_inj]

theorem details?_eq_some {household : Household} {roomId : RoomId} {itemId : ItemId} {details : ItemDetails} :
    household.details? roomId itemId = some details ↔ ∃ room item, household.rooms.room? roomId = some room ∧
      room.item? itemId = some item ∧ household.itemDetails room item = details := by
  unfold details?
  cases household.rooms.room? roomId with
  | none => simp
  | some room => simp

theorem details?_of_empty {household : Household} (empty : household.rooms = .empty) (roomId : RoomId)
    (itemId : ItemId) : household.details? roomId itemId = none := by
  rw [details?, empty]
  rfl

theorem details?_setItem {household : Household} {room : Room} (there : household.rooms.room? room.id = some room)
    (item : Item) (roomId : RoomId) (itemId : ItemId) :
    ({ household with rooms := household.rooms.setRoom (room.setItem item) } : Household).details? roomId itemId =
      if (household.itemDetails room item).isOf roomId itemId then some (household.itemDetails room item)
      else household.details? roomId itemId := by
  simp only [details?, Rooms.room?_setRoom, isOf_itemDetails]
  by_cases here : room.id = roomId
  · subst here
    rw [show (room.setItem item).id = room.id from rfl, if_pos rfl, there]
    simp only [Room.item?_setItem, true_and, eq_comm (a := itemId)]
    split
    · rfl
    · rfl
  · rw [show (room.setItem item).id = room.id from rfl, if_neg (Ne.symm here), if_neg fun both => here both.1]
    rfl

theorem details?_addRoom {household : Household} {room : Room} {rooms : Rooms} (empty : room.items = [])
    (added : household.rooms.add room = .ok rooms) (roomId : RoomId) (itemId : ItemId) :
    ({ household with rooms } : Household).details? roomId itemId = household.details? roomId itemId := by
  obtain ⟨free, _, rfl⟩ := Rooms.add_eq_ok.mp added
  simp only [details?, Rooms.room?_setRoom]
  by_cases here : roomId = room.id
  · subst here
    simp only [if_true, free, Room.item?, empty]
    rfl
  · simp only [here, if_false]
    rfl

theorem rooms_applyCreated (household : Household) (details : HouseholdDetails) :
    (household.applyCreated details).1.rooms = household.rooms ∨ (household.applyCreated details).1.rooms = .empty := by
  unfold applyCreated
  split
  · exact .inl rfl
  · split
    · exact .inl rfl
    · exact .inr rfl

theorem created_of_eventType {fact : Fact} (type : fact.eventType = Fact.createdType) :
    ∃ details, fact = .created details := by
  cases fact with
  | created details => exact ⟨details, rfl⟩
  | roomAdded => exact absurd type (show Fact.roomAddedType ≠ Fact.createdType by decide)
  | itemAdded => exact absurd type (show Fact.itemAddedType ≠ Fact.createdType by decide)
  | itemUpdated => exact absurd type (show Fact.itemUpdatedType ≠ Fact.createdType by decide)

/-- What becomes of a household by what it decides: it is created, it gets an empty room, or it gets an item into one
of its rooms, in the place of the item that was there under the same identifier. -/
theorem decide_cases {household : Household} {created : Bool} {command : Command} {fact : Fact}
    (keyed : household.rooms.Keyed) (decided : household.decide created command = .ok fact) :
    (created = false ∧ ∃ details, fact = .created details) ∨
    (Projection.itemOf? fact = none ∧ ∃ room rooms, room.items = [] ∧ household.rooms.add room = .ok rooms ∧
      (household.apply fact).1 = { household with rooms }) ∨
    ∃ room item, household.rooms.room? room.id = some room ∧
      Projection.itemOf? fact = some (household.itemDetails room item) ∧
        (household.apply fact).1 = { household with rooms := household.rooms.setRoom (room.setItem item) } := by
  cases command with
  | createHousehold details =>
    obtain ⟨fresh, type, _⟩ := agrees_createHousehold decided
    exact .inl ⟨fresh, created_of_eventType type⟩
  | addRoom details =>
    obtain ⟨room, rooms, made, added, rfl, applied⟩ := addRoom_eq_ok (whereCreated_eq_ok decided).2
    exact .inr (.inl ⟨rfl, room, rooms, Room.items_ofText made, added, congrArg Prod.fst applied⟩)
  | addItem details =>
    obtain ⟨room, item, found, made, added, rfl⟩ := addItem_eq_ok (whereCreated_eq_ok decided).2
    have applied := (apply_changedItem keyed found made added).1
    exact .inr (.inr ⟨room, item, (Rooms.find_eq_ok keyed found).2.1, rfl, congrArg Prod.fst applied⟩)
  | updateItem details =>
    obtain ⟨room, item, found, made, updated, rfl⟩ := updateItem_eq_ok keyed (whereCreated_eq_ok decided).2
    have applied := (apply_changedItem keyed found made updated).1
    exact .inr (.inr ⟨room, item, (Rooms.find_eq_ok keyed found).2.1, rfl, congrArg Prod.fst applied⟩)

theorem id_apply (household : Household) (fact : Fact) : (household.apply fact).1.id = household.id := by
  have kept (changed : Except Refusal Rooms) : (household.withRooms changed).1.id = household.id := by
    cases changed <;> rfl
  cases fact with
  | created details =>
    simp only [apply, applyCreated]
    split
    · rfl
    · split <;> rfl
  | roomAdded | itemAdded | itemUpdated => exact kept _

theorem id_after (household : Household) (facts : List Fact) : (household.after facts).id = household.id := by
  induction facts generalizing household with
  | nil => rfl
  | cons fact rest ih => exact (ih _).trans (id_apply household fact)

/-- The facts that show items. -/
def itemFacts (facts : List Fact) : List ItemDetails :=
  facts.filterMap Projection.itemOf?

theorem itemFacts_concat (facts : List Fact) (fact : Fact) :
    itemFacts (facts ++ [fact]) = itemFacts facts ++ (Projection.itemOf? fact).toList := by
  rw [itemFacts, List.filterMap_append]
  cases shown : Projection.itemOf? fact <;> simp [itemFacts, shown]

section
variable {id : AggregateId} {facts : List Fact}

theorem Decided.details?_eq (decided : Decided id facts) (roomId : RoomId) (itemId : ItemId) :
    ((fresh id).after facts).details? roomId itemId =
      ((itemFacts facts).filter (·.isOf roomId itemId)).getLast? := by
  induction decided with
  | nil => rfl
  | @concat facts command fact before decides ih =>
    rw [after_concat, itemFacts_concat, List.filter_append]
    rcases decide_cases (keyed_after Rooms.keyed_empty facts) decides with
      ⟨first, details, rfl⟩ | ⟨shows, room, rooms, empty, added, next⟩ | ⟨room, item, there, shows, next⟩
    · have history : facts = [] := by simpa using first
      subst history
      apply details?_of_empty
      rcases rooms_applyCreated (fresh id) details with same | empty
      · exact same
      · exact empty
    · rw [next, shows, details?_addRoom empty added, ih, Option.toList_none, List.filter_nil, List.append_nil]
    · rw [next, shows, details?_setItem there, Option.toList_some, List.filter_cons, List.filter_nil]
      split
      next here => rw [List.getLast?_concat]
      next elsewhere => rw [List.append_nil, ih]

theorem Decided.exists_isOf (decided : Decided id facts) {details : ItemDetails}
    (member : details ∈ itemFacts facts) :
    details.householdId = id.text ∧ ∃ roomId itemId, details.isOf roomId itemId = true := by
  induction decided with
  | nil => cases member
  | @concat facts command fact before decides ih =>
    rw [itemFacts_concat, List.mem_append, Option.mem_toList] at member
    rcases member with old | new
    · exact ih old
    · rcases decide_cases (keyed_after Rooms.keyed_empty facts) decides with
        ⟨_, created, rfl⟩ | ⟨shows, _⟩ | ⟨room, item, _, shows, _⟩
      · cases new
      · rw [shows] at new
        cases new
      · rw [shows] at new
        cases new
        refine ⟨?_, room.id, item.id, (isOf_itemDetails ..).mpr ⟨rfl, rfl⟩⟩
        exact congrArg AggregateId.text (id_after (fresh id) facts)

theorem Decided.details?_isSome (decided : Decided id facts) {details : ItemDetails}
    (member : details ∈ itemFacts facts) {roomId : RoomId} {itemId : ItemId}
    (about : details.isOf roomId itemId = true) : (((fresh id).after facts).details? roomId itemId).isSome = true := by
  have inside : details ∈ (itemFacts facts).filter (·.isOf roomId itemId) := List.mem_filter.mpr ⟨member, about⟩
  rw [decided.details?_eq, Option.isSome_iff_ne_none]
  intro nothing
  rw [List.getLast?_eq_none_iff.mp nothing] at inside
  cases inside

/-- Some event shows what there is to see of an item, and no event about it that is as late shows anything else. -/
theorem Decided.exists_last {events : List (Event Fact)} (decided : Decided id (events.map Event.data))
    (ascending : events.Pairwise fun first second => first.version < second.version) {roomId : RoomId}
    {itemId : ItemId} {details : ItemDetails}
    (shows : ((fresh id).after (events.map Event.data)).details? roomId itemId = some details) :
    ∃ event ∈ events, Projection.itemOf? event.data = some details ∧ details.isOf roomId itemId = true ∧
      ∀ other ∈ events, ∀ item, Projection.itemOf? other.data = some item → item.isOf roomId itemId = true →
        event.version ≤ other.version → item = details := by
  rw [decided.details?_eq, itemFacts, List.filterMap_map, List.filter_filterMap, List.getLast?_filterMap,
    List.findSome?_eq_some_iff] at shows
  obtain ⟨after, event, before, split, found, silent⟩ := shows
  have whole : events = before.reverse ++ event :: after.reverse := by
    rw [← List.reverse_reverse events, split]
    simp
  obtain ⟨here, about⟩ := Option.filter_eq_some_iff.mp found
  refine ⟨event, ?_, here, about, ?_⟩
  · rw [whole]
    simp
  · intro other member item shown isOf late
    rw [whole] at member ascending
    rcases List.mem_append.mp member with earlier | later
    · have before := (List.pairwise_append.mp ascending).2.2 other earlier event List.mem_cons_self
      omega
    · rcases List.mem_cons.mp later with rfl | behind
      · exact Option.some.inj (shown.symm.trans here)
      · have nothing := silent other (List.mem_reverse.mp behind)
        rw [Function.comp_apply, shown, Option.filter_some, if_pos isOf] at nothing
        cases nothing

end

theorem itemDetails_after {id : AggregateId} {facts : List Fact} {roomId : RoomId} {itemId : ItemId} {room : Room}
    {item : Item} (there : ((fresh id).after facts).rooms.room? roomId = some room)
    (inside : room.item? itemId = some item) :
    ((fresh id).after facts).itemDetails room item =
      ⟨id.text, roomId.text, itemId.text, item.name.text, item.barcode, item.quantity⟩ := by
  obtain ⟨rfl, keyed⟩ := keyed_after Rooms.keyed_empty facts roomId room there
  obtain rfl := keyed itemId item inside
  rw [itemDetails, id_after]
  rfl

theorem details?_after_eq_some {id : AggregateId} {facts : List Fact} {roomId : RoomId} {itemId : ItemId}
    {details : ItemDetails} :
    ((fresh id).after facts).details? roomId itemId = some details ↔
      ∃ room item, ((fresh id).after facts).rooms.room? roomId = some room ∧ room.item? itemId = some item ∧
        details = ⟨id.text, roomId.text, itemId.text, item.name.text, item.barcode, item.quantity⟩ := by
  rw [details?_eq_some]
  constructor
  · rintro ⟨room, item, there, inside, rfl⟩
    exact ⟨room, item, there, inside, itemDetails_after there inside⟩
  · rintro ⟨room, item, there, inside, rfl⟩
    exact ⟨room, item, there, inside, itemDetails_after there inside⟩

end Inventory.Household
