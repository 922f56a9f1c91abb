import Inventory.Household.Part
import Inventory.Proofs.Household.History
import Inventory.Proofs.Table

/-! What holds of a household whatever facts it was shown, those that it refused included. Rooms and items stand under
their own identifiers, and no two rooms have one name. A fact that is refused leaves everything as it was, but for the
owner where a creation was refused for the household's name. -/
namespace Inventory.Household

instance (kind : IdKind) : Std.TransOrd (Id kind) :=
  inferInstanceAs (Std.TransCmp (compareOn fun id : Id kind => id.uuid.digits.map Fin.val))

instance (kind : IdKind) : Std.LawfulEqOrd (Id kind) where
  eq_of_compare {first second} same := by
    have values : first.uuid.digits.map Fin.val = second.uuid.digits.map Fin.val :=
      Std.LawfulEqCmp.compare_eq_iff_eq.mp same
    obtain ⟨⟨_, _⟩⟩ := first
    obtain ⟨⟨_, _⟩⟩ := second
    cases List.map_injective_iff.mpr (fun _ _ => Fin.ext) values
    rfl

/-- Rooms and items stand in the order of their identifiers, each under its own, and rooms differ in their names. -/
structure Rooms.Kept (rooms : Rooms) : Prop where
  sorted : rooms.table.Sorted
  keyed : rooms.Keyed
  items : ∀ id room, rooms.room? id = some room → room.items.Sorted
  apart : ∀ id other room second, rooms.room? id = some room → rooms.room? other = some second →
    room.name = second.name → id = other

theorem Rooms.kept_empty : Kept .empty where
  sorted := .nil
  keyed := keyed_empty
  items _ _ found := nomatch found
  apart _ _ _ _ found := nomatch found

namespace Rooms
variable {rooms next : Rooms}

theorem Kept.mem_toList (kept : rooms.Kept) {room : Room} :
    room ∈ rooms.toList ↔ rooms.room? room.id = some room := by
  constructor
  · intro member
    obtain ⟨⟨id, _⟩, inside, rfl⟩ := List.mem_map.mp member
    have found := kept.sorted.find?_of_mem inside
    obtain ⟨same, _⟩ := kept.keyed id _ found
    rw [same]
    exact found
  · intro found
    exact List.mem_map_of_mem (f := Prod.snd) (kept.sorted.mem_of_find? found)

theorem Kept.name_ne (kept : rooms.Kept) {name : RoomName} (unnamed : rooms.named? name = none) {id : RoomId}
    {room : Room} (there : rooms.room? id = some room) : room.name ≠ name := by
  have own := (kept.keyed id room there).1
  rw [← own] at there
  exact of_decide_eq_false (Bool.eq_false_iff.mpr (List.find?_eq_none.mp unnamed room (kept.mem_toList.mpr there)))

theorem Kept.setRoom (kept : rooms.Kept) {room : Room} (keyed : (rooms.setRoom room).Keyed) (sorted : room.items.Sorted)
    (unnamed : ∀ id other, rooms.room? id = some other → other.name = room.name → id = room.id) :
    (rooms.setRoom room).Kept where
  sorted := kept.sorted.insert room.id room
  keyed := keyed
  items id other found := by
    rw [room?_setRoom] at found
    split at found
    · cases found
      exact sorted
    · exact kept.items id other found
  apart id other first second found behind same := by
    rw [room?_setRoom] at found behind
    split at found <;> split at behind
    next here there => exact here.trans there.symm
    next here there =>
      cases found
      exact here.trans (unnamed other second behind same.symm).symm
    next here there =>
      cases behind
      exact (unnamed id first found same).trans there.symm
    next => exact kept.apart id other first second found behind same

theorem Change.kept (change : rooms.Change next) (kept : rooms.Kept) : next.Kept := by
  have keyed := change.keyed kept.keyed
  cases change with
  | untouched => exact kept
  | emptied => exact kept_empty
  | room free unnamed empty =>
    refine kept.setRoom keyed ?_ fun id other there same => absurd same (kept.name_ne unnamed there)
    rw [empty]
    exact .nil
  | @item room there item =>
    refine kept.setRoom keyed ((kept.items _ room there).insert item.id item) ?_
    exact fun id other found same => kept.apart id room.id other room found there same

theorem Kept.distinct_names (kept : rooms.Kept) : (rooms.toList.map Room.name).Nodup := by
  refine List.pairwise_map.mpr (List.pairwise_map.mpr (kept.sorted.nodup.imp_of_mem ?_))
  rintro ⟨id, room⟩ ⟨other, second⟩ member later differ same
  have found := kept.sorted.find?_of_mem member
  have behind := kept.sorted.find?_of_mem later
  obtain rfl := kept.apart id other room second found behind same
  cases found.symm.trans behind
  exact differ rfl

theorem Kept.filter_name (kept : rooms.Kept) (name : RoomName) :
    rooms.toList.filter (·.name = name) = (rooms.named? name).toList := by
  have distinct := kept.distinct_names
  rw [named?]
  generalize rooms.toList = list at distinct
  induction list with
  | nil => rfl
  | cons room rest ih =>
    obtain ⟨first, others⟩ := List.nodup_cons.mp distinct
    by_cases same : room.name = name
    · rw [List.filter_cons_of_pos (by simpa using same), List.find?_cons_of_pos (by simpa using same),
        List.filter_eq_nil_iff.mpr]
      · rfl
      · intro other member again
        rw [same, ← of_decide_eq_true again] at first
        exact first (List.mem_map_of_mem member)
    · rw [List.filter_cons_of_neg (by simpa using same), List.find?_cons_of_neg (by simpa using same), ih others]

end Rooms

theorem kept_after {household : Household} (kept : household.rooms.Kept) (facts : List Fact) :
    (household.after facts).rooms.Kept := by
  induction facts generalizing household with
  | nil => exact kept
  | cons fact rest ih => exact ih ((change_apply kept.keyed fact).kept kept)

/-- A fact that is refused changes nothing, or it is a creation by somebody who is known under a name that cannot be. -/
theorem apply_refused {household next : Household} {fact : Fact} {refusal : Refusal}
    (refused : household.apply fact = (next, some refusal)) :
    next = household ∨ ∃ details owner, fact = .created details ∧ Id.ofText .user details.userId = .ok owner ∧
      Name.ofText .household details.name = .error refusal ∧ next = { household with owner := some owner } := by
  have unchanged {changed : Except Refusal Rooms} (same : household.withRooms changed = (next, some refusal)) :
      next = household := by
    cases changed with
    | error other =>
      cases same
      rfl
    | ok rooms => cases same
  cases fact with
  | created details =>
    simp only [apply, applyCreated] at refused
    split at refused
    · cases refused
      exact .inl rfl
    next owner known =>
      split at refused
      next other misnamed =>
        cases refused
        exact .inr ⟨details, owner, rfl, known, misnamed, rfl⟩
      next => cases refused
  | roomAdded details => exact .inl (unchanged refused)
  | itemAdded details => exact .inl (unchanged refused)
  | itemUpdated details => exact .inl (unchanged refused)

theorem apply_whole (household : Household) (fact : Fact) : Part.whole.rules.apply household fact =
    ((household.apply fact).1, (household.apply fact).2.map Part.inconsistentHistory) := rfl

/-- Whatever facts a household was shown: rooms and items stand under their own identifiers and each of them once, no
two rooms have one name, so that a name finds the only room that has it, and names have no blanks around them and
neither too few nor too many characters. One more fact that cannot be taken in changes at most the owner, and that only
as a creation by somebody who is known under a name that cannot be. -/
theorem orderly_after (id : AggregateId) (facts : List Fact) :
    let household := (fresh id).after facts
    (household.rooms.table.keys.Nodup ∧ ∀ entry ∈ household.rooms.table, entry.2.id = entry.1 ∧
      entry.2.items.keys.Nodup ∧ ∀ inner ∈ entry.2.items, inner.2.id = inner.1) ∧
    (household.rooms.toList.map Room.name).Nodup ∧
    (∀ name, household.rooms.toList.filter (·.name = name) = (household.rooms.named? name).toList) ∧
    (∀ room ∈ household.rooms.toList,
      (Text.Trimmed room.name.text.toList ∧ 3 ≤ room.name.text.length ∧ room.name.text.length ≤ 50) ∧
      ∀ item ∈ room.items.values,
        Text.Trimmed item.name.text.toList ∧ 3 ≤ item.name.text.length ∧ item.name.text.length ≤ 100) ∧
    (∀ name, household.name = some name → 3 ≤ name.text.length ∧ name.text.length ≤ 50) ∧
    ∀ fact next fault, Part.whole.rules.apply household fact = (next, some fault) →
      next.id = household.id ∧ next.name = household.name ∧ next.rooms = household.rooms ∧
      (next.owner ≠ household.owner → ∃ details owner refusal, fact = .created details ∧
        Id.ofText .user details.userId = .ok owner ∧ Name.ofText .household details.name = .error refusal) := by
  intro household
  have kept : household.rooms.Kept := kept_after Rooms.kept_empty facts
  refine ⟨⟨kept.sorted.nodup_keys, ?_⟩, kept.distinct_names, kept.filter_name, ?_, ?_, ?_⟩
  · rintro ⟨id, room⟩ member
    have there := kept.sorted.find?_of_mem member
    obtain ⟨own, keyed⟩ := kept.keyed id room there
    have sorted := kept.items id room there
    exact ⟨own, sorted.nodup_keys, fun inner inside => keyed inner.1 inner.2 (sorted.find?_of_mem inside)⟩
  · intro room _
    exact ⟨⟨room.name.trimmed rfl, room.name.bounded⟩, fun item _ => ⟨item.name.trimmed rfl, item.name.bounded⟩⟩
  · exact fun name _ => name.bounded
  · intro fact next fault failed
    rw [apply_whole] at failed
    obtain ⟨left, mapped⟩ := Prod.mk.inj failed
    obtain ⟨refusal, refused, _⟩ := Option.map_eq_some_iff.mp mapped
    rcases apply_refused (Prod.ext left refused) with rfl | ⟨details, owner, rfl, known, misnamed, rfl⟩
    · exact ⟨rfl, rfl, rfl, fun changed => absurd rfl changed⟩
    · exact ⟨rfl, rfl, rfl, fun _ => ⟨details, owner, refusal, rfl, known, misnamed⟩⟩

/-- A second room of one name is refused, and then a creation whose owner is taken in all the same. -/
theorem orderly_after_refusals :
    let household := (fresh ⟨"h"⟩).after
      [.roomAdded ⟨"h", "0123456789abcdef0123456789abcdef", " Den "⟩,
        .roomAdded ⟨"h", "f123456789abcdef0123456789abcdef", "Den"⟩]
    let creation : Fact := .created ⟨"h", "f123456789abcdef0123456789abcdef", "No"⟩
    let next := (Part.whole.rules.apply household creation).1
    household.rooms.toList.map (·.name.text) = ["Den"] ∧ next.owner ≠ household.owner ∧
      next.rooms = household.rooms := by
  intro household creation next
  have refused := (orderly_after ⟨"h"⟩ _).2.2.2.2.2 creation next
    (Part.inconsistentHistory (.invalidLength .household)) (show Part.whole.rules.apply household _ = _ from rfl)
  exact ⟨rfl, by decide, refused.2.2.1⟩

end Inventory.Household
