import Inventory.Proofs.Household.Acceptance
import Inventory.Proofs.Household.Contents
import Mathlib.Data.List.TakeWhile

/-! A household goes by what a command means. In which form an identifier is spelled, and how many blanks stand around
the name of a room or an item, makes no difference to the answer. A fact that is decided on has everything in its one
form, and said again as a command it is decided on once more. -/
namespace Inventory

namespace Text

/-- The text is the core with nothing but blanks around it. -/
def Padded (core text : String) : Prop :=
  ∃ before after : String, text = before ++ core ++ after ∧ (∀ character ∈ before.toList, isBlank character = true) ∧
    ∀ character ∈ after.toList, isBlank character = true

theorem trimChars_append {before core after : List Char} (front : ∀ character ∈ before, isBlank character = true)
    (back : ∀ character ∈ after, isBlank character = true) : trimChars (before ++ core ++ after) = trimChars core := by
  rw [trimChars, trimChars, List.append_assoc, List.dropWhile_append_of_pos front, List.dropWhile_append]
  split
  next empty => rw [List.isEmpty_iff.mp empty, List.dropWhile_eq_nil_iff.mpr back]
  next => rw [List.reverse_append, List.dropWhile_append_of_pos fun _ member => back _ (List.mem_reverse.mp member)]

theorem Padded.trim_eq {core text : String} (padded : Padded core text) : trim text = trim core := by
  obtain ⟨before, after, rfl, front, back⟩ := padded
  rw [trim, trim, String.toList_append, String.toList_append, trimChars_append front back]

theorem padded_trim (text : String) : Padded (trim text) text := by
  let rest := text.toList.dropWhile isBlank
  refine ⟨.ofList (text.toList.takeWhile isBlank), .ofList (rest.reverse.takeWhile isBlank).reverse, ?_, ?_, ?_⟩
  · have back : (rest.reverse.dropWhile isBlank).reverse ++ (rest.reverse.takeWhile isBlank).reverse = rest := by
      rw [← List.reverse_append, List.takeWhile_append_dropWhile, List.reverse_reverse]
    rw [trim, trimChars, ← String.ofList_append, ← String.ofList_append, List.append_assoc, back,
      List.takeWhile_append_dropWhile, String.ofList_toList]
  · rw [String.toList_ofList]
    exact fun _ member => List.mem_takeWhile_imp member
  · rw [String.toList_ofList]
    exact fun _ member => List.mem_takeWhile_imp (List.mem_reverse.mp member)

end Text

namespace Household

/-- The texts are the same, or they spell one identifier. -/
def SameId (first second : String) : Prop :=
  first = second ∨ ∃ uuid, Uuid.Spells first uuid ∧ Uuid.Spells second uuid

/-- The texts differ in nothing but the blanks around them. -/
def SameName (first second : String) : Prop :=
  ∃ core, Text.Padded core first ∧ Text.Padded core second

theorem Id.ofText_congr {kind : IdKind} {first second : String} (same : SameId first second) :
    ofText kind first = ofText kind second := by
  rcases same with rfl | ⟨uuid, spelled, again⟩
  · rfl
  · rw [ofText, ofText, Uuid.parse?_eq_some.mpr spelled, Uuid.parse?_eq_some.mpr again]

theorem Name.ofText_congr (kind : NameKind) (trims : kind.trims = true) {first second : String}
    (same : SameName first second) : ofText kind first = ofText kind second := by
  obtain ⟨core, padded, again⟩ := same
  have cores : kind.core first = kind.core second := by
    rw [NameKind.core, NameKind.core, if_pos trims, if_pos trims, padded.trim_eq, again.trim_eq]
  simp only [ofText, cores]

/-- The commands mean the same: at most they spell identifiers in other forms, or have other blanks around names. -/
inductive Command.Alike : Command → Command → Prop
  | createHousehold {first second : HouseholdDetails} (household : first.householdId = second.householdId)
      (user : SameId first.userId second.userId) (name : first.name = second.name) :
      Alike (.createHousehold first) (.createHousehold second)
  | addRoom {first second : RoomDetails} (household : first.householdId = second.householdId)
      (room : SameId first.roomId second.roomId) (name : SameName first.name second.name) :
      Alike (.addRoom first) (.addRoom second)
  | addItem {first second : ItemDetails} (household : first.householdId = second.householdId)
      (room : SameId first.roomId second.roomId) (item : SameId first.itemId second.itemId)
      (name : SameName first.name second.name) (barcode : first.barcode = second.barcode)
      (quantity : first.quantity = second.quantity) : Alike (.addItem first) (.addItem second)
  | updateItem {first second : ItemDetails} (household : first.householdId = second.householdId)
      (room : SameId first.roomId second.roomId) (item : SameId first.itemId second.itemId)
      (name : SameName first.name second.name) (barcode : first.barcode = second.barcode)
      (quantity : first.quantity = second.quantity) : Alike (.updateItem first) (.updateItem second)

section
variable {household : Household}

theorem createHousehold_congr {created : Bool} {first second : HouseholdDetails}
    (named : created = true → first.householdId = second.householdId) (user : SameId first.userId second.userId)
    (name : first.name = second.name) :
    household.createHousehold created first = household.createHousehold created second := by
  unfold createHousehold
  split
  next history => rw [named history]
  next => rw [name, Id.ofText_congr user]

theorem addRoom_congr {first second : RoomDetails} (room : SameId first.roomId second.roomId)
    (name : SameName first.name second.name) : household.addRoom first = household.addRoom second := by
  have made : Room.ofText first.roomId first.name = Room.ofText second.roomId second.name := by
    simp only [Room.ofText, Id.ofText_congr room, Name.ofText_congr .room rfl name]
  simp only [addRoom, made]

theorem Rooms.find_congr {rooms : Rooms} {first second : String} (same : SameId first second) :
    rooms.find first = rooms.find second := by
  simp only [find, Id.ofText_congr same]

theorem addItem_congr {first second : ItemDetails} (room : SameId first.roomId second.roomId)
    (item : SameId first.itemId second.itemId) (name : SameName first.name second.name)
    (barcode : first.barcode = second.barcode) (quantity : first.quantity = second.quantity) :
    household.addItem first = household.addItem second := by
  have made : Item.ofText first.itemId first.name first.barcode first.quantity =
      Item.ofText second.itemId second.name second.barcode second.quantity := by
    simp only [Item.ofText, Id.ofText_congr item, Name.ofText_congr .item rfl name, barcode, quantity]
  simp only [addItem, Rooms.find_congr room, made]

theorem updateItem_congr {first second : ItemDetails} (room : SameId first.roomId second.roomId)
    (item : SameId first.itemId second.itemId) (name : SameName first.name second.name)
    (barcode : first.barcode = second.barcode) (quantity : first.quantity = second.quantity) :
    household.updateItem first = household.updateItem second := by
  have revised (item : Item) : item.revise first.name first.barcode first.quantity =
      item.revise second.name second.barcode second.quantity := by
    simp only [Item.revise, Name.ofText_congr .item rfl name, barcode, quantity]
  simp only [updateItem, Rooms.find_congr room, Id.ofText_congr item, revised]

theorem decide_congr {created : Bool} {first second : Command} (alike : first.Alike second) :
    household.decide created first = household.decide created second := by
  cases alike with
  | createHousehold named user name => exact createHousehold_congr (fun _ => named) user name
  | addRoom _ room name => exact congrArg (household.whereCreated created) (addRoom_congr room name)
  | addItem _ room item name barcode quantity =>
    exact congrArg (household.whereCreated created) (addItem_congr room item name barcode quantity)
  | updateItem _ room item name barcode quantity =>
    exact congrArg (household.whereCreated created) (updateItem_congr room item name barcode quantity)

end

/-- The command that would say just what the fact says. -/
def Fact.asCommand : Fact → Command
  | .created details => .createHousehold details
  | .roomAdded details => .addRoom details
  | .itemAdded details => .addItem details
  | .itemUpdated details => .updateItem details

/-- The text spells the same identifier, in the form in which identifiers are written. -/
def WritesId (text spelled : String) : Prop :=
  Uuid.Canonical text ∧ ∃ uuid, Uuid.Spells text uuid ∧ Uuid.Spells spelled uuid

/-- The text is the name with no blanks around it. -/
def WritesName (text padded : String) : Prop :=
  Text.Trimmed text.toList ∧ Text.Padded text padded

theorem WritesId.same {text spelled : String} (writes : WritesId text spelled) : SameId text spelled :=
  .inr writes.2

theorem WritesName.same {text padded : String} (writes : WritesName text padded) : SameName text padded :=
  ⟨text, ⟨"", "", by simp, by simp, by simp⟩, writes.2⟩

theorem Id.writesId_text {kind : IdKind} {text : String} {id : Id kind} (read : ofText kind text = .ok id) :
    WritesId id.text text := by
  refine ⟨Uuid.canonical_text id.uuid, id.uuid, Uuid.parse?_eq_some.mp id.uuid.parse?_text, ?_⟩
  unfold ofText at read
  split at read
  · cases read
  next uuid spelled =>
    cases read
    exact Uuid.parse?_eq_some.mp spelled

theorem Name.text_of_ofText {kind : NameKind} {text : String} {name : Name kind} (made : ofText kind text = .ok name) :
    name.text = kind.core text := by
  simp only [ofText] at made
  split at made
  · cases made
    rfl
  · cases made

theorem Name.writesName_text {kind : NameKind} (trims : kind.trims = true) {text : String} {name : Name kind}
    (made : ofText kind text = .ok name) : WritesName name.text text := by
  refine ⟨name.trimmed trims, ?_⟩
  rw [text_of_ofText made, NameKind.core, if_pos trims]
  exact Text.padded_trim text

/-- The details are those of the others, written in their one form, for the household itself. -/
structure ItemDetails.Writes (household : AggregateId) (written said : ItemDetails) : Prop where
  household : written.householdId = household.text
  room : WritesId written.roomId said.roomId
  item : WritesId written.itemId said.itemId
  name : WritesName written.name said.name
  barcode : written.barcode = said.barcode
  quantity : written.quantity = said.quantity

/-- The fact is what the command asks for, written in its one form, for the household itself. -/
inductive Fact.Writes (household : AggregateId) : Fact → Command → Prop
  | created {written said : HouseholdDetails} (whole : written.householdId = household.text)
      (user : WritesId written.userId said.userId) (name : written.name = said.name) :
      Writes household (.created written) (.createHousehold said)
  | roomAdded {written said : RoomDetails} (whole : written.householdId = household.text)
      (room : WritesId written.roomId said.roomId) (name : WritesName written.name said.name) :
      Writes household (.roomAdded written) (.addRoom said)
  | itemAdded {written said : ItemDetails} (details : written.Writes household said) :
      Writes household (.itemAdded written) (.addItem said)
  | itemUpdated {written said : ItemDetails} (details : written.Writes household said) :
      Writes household (.itemUpdated written) (.updateItem said)

section
variable {household : Household}

theorem writes_itemDetails (keyed : household.rooms.Keyed) {details : ItemDetails} {room : Room} {item : Item}
    (found : household.rooms.find details.roomId = .ok room)
    (made : Item.ofText details.itemId details.name details.barcode details.quantity = .ok item) :
    (household.itemDetails room item).Writes household.id details := by
  obtain ⟨itemId, itemName, read, named, rfl⟩ := Item.ofText_eq_ok.mp made
  exact {
    household := rfl
    room := Id.writesId_text (Rooms.find_eq_ok keyed found).1
    item := Id.writesId_text read
    name := Name.writesName_text rfl named
    barcode := rfl
    quantity := rfl }

theorem writes_decide {created : Bool} {command : Command} {fact : Fact} (keyed : household.rooms.Keyed)
    (decided : household.decide created command = .ok fact) : fact.Writes household.id command := by
  cases command with
  | createHousehold details =>
    obtain ⟨_, owner, name, read, named, rfl⟩ := createHousehold_eq_ok decided
    exact .created rfl (Id.writesId_text read) (Name.text_of_ofText named)
  | addRoom details =>
    obtain ⟨_, added⟩ := whereCreated_eq_ok decided
    obtain ⟨room, _, made, _, rfl, _⟩ := addRoom_eq_ok added
    obtain ⟨roomId, roomName, read, named, rfl⟩ := Room.ofText_eq_ok.mp made
    exact .roomAdded rfl (Id.writesId_text read) (Name.writesName_text rfl named)
  | addItem details =>
    obtain ⟨_, added⟩ := whereCreated_eq_ok decided
    obtain ⟨room, item, found, made, _, rfl⟩ := addItem_eq_ok added
    exact .itemAdded (writes_itemDetails keyed found made)
  | updateItem details =>
    obtain ⟨_, updated⟩ := whereCreated_eq_ok decided
    obtain ⟨room, item, found, made, _, rfl⟩ := updateItem_eq_ok keyed updated
    exact .itemUpdated (writes_itemDetails keyed found made)

/-- What was decided means the same as the command, so it is decided on again. The household that a command names
matters only where it is refused. -/
theorem decide_asCommand {created : Bool} {command : Command} {fact : Fact} (keyed : household.rooms.Keyed)
    (decided : household.decide created command = .ok fact) : household.decide created fact.asCommand = .ok fact := by
  cases writes_decide keyed decided with
  | created _ user name =>
    obtain ⟨rfl, _⟩ := createHousehold_eq_ok decided
    refine (createHousehold_congr ?_ user.same name).trans decided
    intro history
    cases history
  | roomAdded _ room name =>
    exact (congrArg (household.whereCreated created) (addRoom_congr room.same name.same)).trans decided
  | itemAdded details =>
    refine (congrArg (household.whereCreated created) ?_).trans decided
    exact addItem_congr details.room.same details.item.same details.name.same details.barcode details.quantity
  | itemUpdated details =>
    refine (congrArg (household.whereCreated created) ?_).trans decided
    exact updateItem_congr details.room.same details.item.same details.name.same details.barcode details.quantity

end

/-- Whatever facts a household was shown, and whatever the context: commands that mean the same get the same answer. One
that is accepted is accepted as one fact, which has its identifiers in their one form and names with no blanks around
them; said as a command, that fact is accepted as itself. -/
theorem decides_by_meaning (id : AggregateId) (facts : List Fact) (context : Context Fact) (command : Command) :
    let decide := Part.whole.rules.decide ((fresh id).after facts) context
    (∀ other, command.Alike other → decide command = decide other) ∧
    ∀ payloads, decide command = .ok payloads →
      ∃ fact, payloads = [fact] ∧ fact.Writes id command ∧ decide fact.asCommand = .ok [fact] := by
  intro decide
  have keyed : ((fresh id).after facts).rooms.Keyed := keyed_after Rooms.keyed_empty facts
  constructor
  · intro other alike
    change Part.whole.decide _ context command = Part.whole.decide _ context other
    simp only [Part.decide, Part.whole, decide_congr alike]
  · intro payloads accepted
    obtain ⟨fact, decided, rfl⟩ := decide_whole accepted
    have writes := writes_decide keyed decided
    rw [id_after] at writes
    exact ⟨fact, rfl, writes, decide_whole_eq_ok (decide_asCommand keyed decided)⟩

/-- A room is spelled in braces or behind `urn:uuid:`, the new item in a row, and the item's name has a wide blank
before it or a tab behind it. -/
theorem decides_by_meaning_forms :
    let household := (fresh ⟨"h"⟩).after [.roomAdded ⟨"h", "0123456789abcdef0123456789abcdef", "Den"⟩]
    let first : Command := .addItem ⟨"h", "{01234567-89AB-CDEF-0123-456789ABCDEF}",
      "F123456789abcdef0123456789abcdef", "\u3000Lamp", "7", 1⟩
    let second : Command := .addItem ⟨"h", "URN:uuid:01234567-89ab-cdef-0123-456789abcdef",
      "f123456789abcdef0123456789abcdef", "Lamp\t", "7", 1⟩
    let fact : Fact := .itemAdded ⟨"h", "01234567-89ab-cdef-0123-456789abcdef",
      "f1234567-89ab-cdef-0123-456789abcdef", "Lamp", "7", 1⟩
    first.Alike second ∧ Part.whole.rules.decide household (.start ⟨aggregateType, ⟨"h"⟩⟩ 1) first = .ok [fact] ∧
      Part.whole.rules.decide household (.start ⟨aggregateType, ⟨"h"⟩⟩ 1) second = .ok [fact] := by
  intro household first second fact
  let digits : List (Fin 16) := (List.finRange 16) ++ List.finRange 16
  have alike : first.Alike second :=
    .addItem rfl (.inr ⟨⟨digits, rfl⟩, ⟨.braced, by decide⟩, ⟨.urn, by decide⟩⟩)
      (.inr ⟨⟨15 :: digits.tail, rfl⟩, ⟨.plain, by decide⟩, ⟨.plain, by decide⟩⟩)
      ⟨"Lamp", ⟨"\u3000", "", by decide, by simp [Text.isBlank], by simp⟩,
        ⟨"", "\t", by decide, by simp, by simp [Text.isBlank]⟩⟩ rfl rfl
  have accepted : Part.whole.rules.decide household (.start ⟨aggregateType, ⟨"h"⟩⟩ 1) first = .ok [fact] := rfl
  exact ⟨alike, accepted, ((decides_by_meaning ⟨"h"⟩ _ _ first).1 second alike).symm.trans accepted⟩

end Household

end Inventory
