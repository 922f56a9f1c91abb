import Inventory.Proofs.Household.Invariant

/-! Deciding and taking in follow one set of rules, though each looks at them in an order of its own. A command is
accepted just where the fact that says what it says can be taken in, given that the household has the history that the
command asks for. The fact that it is accepted as leaves behind the same household. -/
namespace Inventory.Household

/-- The command is for a household that has no history. -/
def Command.opens : Command → Bool
  | .createHousehold _ => true
  | .addRoom _ | .addItem _ | .updateItem _ => false

theorem withRooms_taken {household : Household} {changed : Except Refusal Rooms}
    (taken : (household.withRooms changed).2 = none) : ∃ rooms, changed = .ok rooms := by
  cases changed with
  | error refusal => cases taken
  | ok rooms => exact ⟨rooms, rfl⟩

section
variable {household : Household}

theorem createHousehold_of_applied {details : HouseholdDetails} (taken : (household.applyCreated details).2 = none) :
    ∃ fact, household.createHousehold false details = .ok fact := by
  unfold applyCreated at taken
  split at taken
  · cases taken
  next owner known =>
    split at taken
    · cases taken
    next name named =>
      simp only [createHousehold, known, named]
      exact ⟨_, rfl⟩

theorem addRoom_of_applied {details : RoomDetails} {rooms : Rooms}
    (added : addedRoom household.rooms details = .ok rooms) : ∃ fact, household.addRoom details = .ok fact := by
  unfold addedRoom at added
  split at added
  · cases added
  next room made =>
    simp only [addRoom, made, added]
    exact ⟨_, rfl⟩

theorem addItem_of_applied {details : ItemDetails} {rooms : Rooms}
    (changed : changedItem Room.addItem household.rooms details = .ok rooms) :
    ∃ fact, household.addItem details = .ok fact := by
  obtain ⟨item, room, later, made, found, added, _⟩ := changedItem_eq_ok changed
  have free := (Room.addItem_eq_ok.mp added).1
  simp only [addItem, made, found, free]
  exact ⟨_, rfl⟩

theorem updateItem_of_applied {details : ItemDetails} {rooms : Rooms}
    (changed : changedItem Room.updateItem household.rooms details = .ok rooms) :
    ∃ fact, household.updateItem details = .ok fact := by
  obtain ⟨item, room, later, made, found, updated, _⟩ := changedItem_eq_ok changed
  obtain ⟨id, name, read, named, rfl⟩ := Item.ofText_eq_ok.mp made
  obtain ⟨old, present⟩ := Option.isSome_iff_exists.mp (Room.updateItem_eq_ok.mp updated).1
  simp only [updateItem, found, read, present, Item.revise, named]
  exact ⟨_, rfl⟩

/-- What can be taken in as it is said is accepted. -/
theorem decide_of_applied {command : Command} (taken : (household.apply command.asFact).2 = none) :
    ∃ fact, household.decide (!command.opens) command = .ok fact := by
  cases command with
  | createHousehold details => exact createHousehold_of_applied taken
  | addRoom details =>
    obtain ⟨rooms, added⟩ := withRooms_taken taken
    exact addRoom_of_applied added
  | addItem details =>
    obtain ⟨rooms, changed⟩ := withRooms_taken taken
    exact addItem_of_applied changed
  | updateItem details =>
    obtain ⟨rooms, changed⟩ := withRooms_taken taken
    exact updateItem_of_applied changed

theorem decide_kind {created : Bool} {command : Command} {fact : Fact} (keyed : household.rooms.Keyed)
    (decided : household.decide created command = .ok fact) :
    created = !command.opens ∧ fact.eventType = command.asFact.eventType := by
  cases command with
  | createHousehold details =>
    obtain ⟨fresh, type, _⟩ := agrees_createHousehold decided
    exact ⟨fresh, type⟩
  | addRoom details =>
    obtain ⟨history, added⟩ := whereCreated_eq_ok decided
    obtain ⟨_, _, _, _, rfl, _⟩ := addRoom_eq_ok added
    exact ⟨history, rfl⟩
  | addItem details =>
    obtain ⟨history, added⟩ := whereCreated_eq_ok decided
    obtain ⟨_, _, _, _, _, rfl⟩ := addItem_eq_ok added
    exact ⟨history, rfl⟩
  | updateItem details =>
    obtain ⟨history, updated⟩ := whereCreated_eq_ok decided
    obtain ⟨_, _, _, _, _, rfl⟩ := updateItem_eq_ok keyed updated
    exact ⟨history, rfl⟩

end

theorem decide_whole_eq_ok {household : Household} {context : Context Fact} {command : Command} {fact : Fact}
    (decided : household.decide context.hasHistory command = .ok fact) :
    Part.whole.rules.decide household context command = .ok [fact] := by
  change Part.whole.decide household context command = _
  simp only [Part.decide, Part.whole, decided]

/-- Whatever facts a household was shown, and whatever the context: a command is accepted just if there is a history
where it asks for one, or none where it asks for that, and the fact that says what the command says can be taken in. It
is accepted as one fact of that kind, which can be taken in too and leaves behind the same household. -/
theorem accepts_as_applies (id : AggregateId) (facts : List Fact) (context : Context Fact) (command : Command) :
    let household := (fresh id).after facts
    let said := Part.whole.rules.apply household command.asFact
    ((∃ payloads, Part.whole.rules.decide household context command = .ok payloads) ↔
      context.hasHistory = !command.opens ∧ said.2 = none) ∧
    ∀ payloads, Part.whole.rules.decide household context command = .ok payloads →
      ∃ fact, payloads = [fact] ∧ fact.eventType = command.asFact.eventType ∧
        Part.whole.rules.apply household fact = (said.1, none) := by
  intro household said
  have keyed : household.rooms.Keyed := keyed_after Rooms.keyed_empty facts
  have accepted {payloads : List Fact} (decides : Part.whole.rules.decide household context command = .ok payloads) :
      ∃ fact, payloads = [fact] ∧ household.decide context.hasHistory command = .ok fact ∧
        household.Agrees command fact := by
    obtain ⟨fact, decided, rfl⟩ := decide_whole decides
    exact ⟨fact, rfl, decided, (agrees_decide keyed decided).2⟩
  refine ⟨⟨?_, ?_⟩, ?_⟩
  · rintro ⟨payloads, decides⟩
    obtain ⟨fact, _, decided, next, _, applied⟩ := accepted decides
    refine ⟨(decide_kind keyed decided).1, ?_⟩
    rw [show said = _ from apply_whole .., applied]
    rfl
  · rintro ⟨history, taken⟩
    obtain ⟨fact, decided⟩ := decide_of_applied (Option.map_eq_none_iff.mp taken)
    rw [← history] at decided
    exact ⟨[fact], decide_whole_eq_ok decided⟩
  · intro payloads decides
    obtain ⟨fact, rfl, decided, next, taken, applied⟩ := accepted decides
    refine ⟨fact, rfl, (decide_kind keyed decided).2, ?_⟩
    rw [show said = _ from apply_whole .., apply_whole, taken, applied]
    rfl

end Inventory.Household
