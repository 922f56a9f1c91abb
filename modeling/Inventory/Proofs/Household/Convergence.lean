import Inventory.Proofs.Household.Projection
import Mathlib.Data.Finset.Card
import Mathlib.Data.Finset.Dedup

/-! Projections that are shown the same. Events may come in any order and more than once: what a projection has behind
them is for each item the latest that was shown of it, so that it depends on the events alone. -/
namespace Inventory.Household.Projection
variable {Data Command : Type} [Payload Data] {part : Part Data Command}

/-- The item that an event shows to the projection. -/
def view? (part : Part Data Command) (event : Event Data) : Option ItemDetails :=
  (part.fact? event.data).bind itemOf?

def shownBy (part : Part Data Command) (events : List (Event Data)) : List (Nat × ItemDetails) :=
  events.filterMap fun event => (view? part event).map fun item => (event.version, item)

/-- Events that show one item each and agree on what an item was at a version. -/
structure Consistent (part : Part Data Command) (events : List (Event Data)) : Prop where
  shows : ∀ event ∈ events, (view? part event).isSome = true
  positive : ∀ event ∈ events, 0 < event.version
  agree : ∀ event ∈ events, ∀ other ∈ events, ∀ item another, view? part event = some item →
    view? part other = some another → item.itemId = another.itemId → event.version = other.version → item = another

/-- An event that shows an item as no later event does. -/
structure ShowsLast (part : Part Data Command) (events : List (Event Data)) (event : Event Data)
    (item : ItemDetails) : Prop where
  member : event ∈ events
  shows : view? part event = some item
  latest : ∀ other ∈ events, ∀ another, view? part other = some another → another.itemId = item.itemId →
    other.version ≤ event.version

section
variable {events first second : List (Event Data)} {projection other : Projection}

theorem mem_shownBy {version : Nat} {item : ItemDetails} :
    (version, item) ∈ shownBy part events ↔
      ∃ event ∈ events, view? part event = some item ∧ event.version = version := by
  simp only [shownBy, List.mem_filterMap, Option.map_eq_some_iff, Prod.mk.injEq]
  constructor
  · rintro ⟨event, member, shown, shows, rfl, rfl⟩
    exact ⟨event, member, shows, rfl⟩
  · rintro ⟨event, member, shows, rfl⟩
    exact ⟨event, member, item, shows, rfl, rfl⟩

theorem handle_shown {event : Event Data} {item : ItemDetails} (shows : view? part event = some item) :
    projection.handle part event = .ok (projection.put event.version item) := by
  have found : (part.fact? event.data).bind itemOf? = some item := shows
  rw [handle, found]

theorem shownBy_concat (events : List (Event Data)) {event : Event Data} {item : ItemDetails}
    (shows : view? part event = some item) :
    shownBy part (events ++ [event]) = shownBy part events ++ [(event.version, item)] := by
  rw [shownBy, List.filterMap_append, List.filterMap_cons, shows]
  rfl

theorem exists_tracks (shows : ∀ event ∈ events, (view? part event).isSome = true) :
    ∃ projection, events.foldlM (handle part) empty = .ok projection ∧ projection.Tracks (shownBy part events) := by
  induction events using List.reverseRecOn with
  | nil => exact ⟨empty, rfl, tracks_empty⟩
  | append_singleton events event ih =>
    obtain ⟨before, taken, tracks⟩ := ih fun earlier member => shows earlier (List.mem_append_left _ member)
    obtain ⟨item, seen⟩ := Option.isSome_iff_exists.mp (shows event (List.mem_append_right _ List.mem_cons_self))
    refine ⟨before.put event.version item, ?_, ?_⟩
    · have last : [event].foldlM (handle part) before = .ok (before.put event.version item) := by
        rw [List.foldlM_cons, handle_shown seen]
        rfl
      rw [List.foldlM_append, taken]
      exact last
    · rw [shownBy_concat events seen]
      exact tracks.put event.version item

theorem Consistent.entry?_eq_some (consistent : Consistent part events)
    (tracks : projection.Tracks (shownBy part events)) {itemId : String} {version : Nat} {item : ItemDetails} :
    projection.entry? itemId = some (version, item) ↔
      item.itemId = itemId ∧ ∃ event, ShowsLast part events event item ∧ event.version = version := by
  constructor
  · intro found
    obtain ⟨same, inside⟩ := tracks.known itemId version item found
    obtain ⟨event, member, shows, at'⟩ := mem_shownBy.mp inside
    refine ⟨same, event, ⟨member, shows, fun other memberOther another seen alike => ?_⟩, at'⟩
    have bound := tracks.latest _ _ (mem_shownBy.mpr ⟨other, memberOther, seen, rfl⟩)
    rw [alike, same, lastVersion, found] at bound
    exact at' ▸ bound
  · rintro ⟨rfl, event, last, rfl⟩
    obtain ⟨version, view, there, least⟩ :=
      tracks.exists_entry (mem_shownBy.mpr ⟨event, last.member, last.shows, rfl⟩) (consistent.positive _ last.member)
    obtain ⟨same, inside⟩ := tracks.known _ _ _ there
    obtain ⟨other, member, seen, rfl⟩ := mem_shownBy.mp inside
    have equal := Nat.le_antisymm (last.latest other member view seen same) least
    rw [there, consistent.agree other member event last.member view item seen last.shows same equal, equal]

theorem Consistent.item?_eq_some (consistent : Consistent part events)
    (tracks : projection.Tracks (shownBy part events)) {itemId : String} {item : ItemDetails} :
    projection.item? itemId = some item ↔ item.itemId = itemId ∧ ∃ event, ShowsLast part events event item := by
  rw [item?, Option.map_eq_some_iff]
  constructor
  · rintro ⟨⟨version, view⟩, found, rfl⟩
    obtain ⟨same, event, last, -⟩ := (consistent.entry?_eq_some tracks).mp found
    exact ⟨same, event, last⟩
  · rintro ⟨same, event, last⟩
    exact ⟨(event.version, item), (consistent.entry?_eq_some tracks).mpr ⟨same, event, last, rfl⟩, rfl⟩

theorem mem_keys {itemId : String} :
    itemId ∈ Table.keys projection.entries ↔ projection.item? itemId ≠ none := by
  rw [Table.mem_keys, ← Option.ne_none_iff_isSome, item?, entry?, ne_eq, ne_eq, Option.map_eq_none_iff]

theorem Consistent.item?_eq_none (consistent : Consistent part events)
    (tracks : projection.Tracks (shownBy part events)) {itemId : String} :
    projection.item? itemId = none ↔ itemId ∉ (events.filterMap (view? part)).map ItemDetails.itemId := by
  rw [← not_iff_not, not_not, List.mem_map, ← ne_eq, Option.ne_none_iff_exists']
  constructor
  · rintro ⟨item, found⟩
    obtain ⟨same, event, last⟩ := (consistent.item?_eq_some tracks).mp found
    exact ⟨item, List.mem_filterMap.mpr ⟨event, last.member, last.shows⟩, same⟩
  · rintro ⟨item, shown, rfl⟩
    obtain ⟨event, member, shows⟩ := List.mem_filterMap.mp shown
    obtain ⟨version, view, there, -⟩ :=
      tracks.exists_entry (mem_shownBy.mpr ⟨event, member, shows, rfl⟩) (consistent.positive event member)
    exact ⟨view, by rw [item?, there]; rfl⟩

theorem Consistent.size_eq (consistent : Consistent part events) (tracks : projection.Tracks (shownBy part events)) :
    projection.size = ((events.filterMap (view? part)).map ItemDetails.itemId).toFinset.card := by
  have same : (Table.keys projection.entries).toFinset =
      ((events.filterMap (view? part)).map ItemDetails.itemId).toFinset := by
    ext itemId
    rw [List.mem_toFinset, List.mem_toFinset, mem_keys, ne_eq, consistent.item?_eq_none tracks, not_not]
  rw [← same, List.toFinset_card_of_nodup tracks.sorted.nodup_keys, size, Table.keys, List.length_map]

theorem Consistent.congr (consistent : Consistent part first) (same : ∀ event, event ∈ second ↔ event ∈ first) :
    Consistent part second where
  shows event member := consistent.shows event ((same event).mp member)
  positive event member := consistent.positive event ((same event).mp member)
  agree event member other memberOther :=
    consistent.agree event ((same event).mp member) other ((same other).mp memberOther)

theorem ShowsLast.congr {event : Event Data} {item : ItemDetails} (last : ShowsLast part first event item)
    (same : ∀ event, event ∈ second ↔ event ∈ first) : ShowsLast part second event item where
  member := (same event).mpr last.member
  shows := last.shows
  latest other member := last.latest other ((same other).mp member)

/-- Which events there are decides what a projection has of them. -/
theorem Consistent.eq_of_tracks (consistent : Consistent part first)
    (same : ∀ event, event ∈ second ↔ event ∈ first) (tracks : projection.Tracks (shownBy part first))
    (tracksOther : other.Tracks (shownBy part second)) : other = projection := by
  have alike (itemId : String) : other.entry? itemId = projection.entry? itemId := by
    refine Option.ext fun entry => ?_
    rw [consistent.entry?_eq_some tracks, (consistent.congr same).entry?_eq_some tracksOther]
    refine and_congr_right fun _ => exists_congr fun event => and_congr_left fun _ => ⟨?_, ?_⟩
    · exact fun last => last.congr fun event => (same event).symm
    · exact fun last => last.congr same
  exact congrArg Projection.mk (tracksOther.sorted.ext tracks.sorted alike)

/-- Events that agree are all taken in, in whatever order and however often they come. An item is then found as the
latest of its events shows it, no other items are, and what is found depends on nothing but which events there were. -/
theorem Consistent.converges (consistent : Consistent part first)
    (same : ∀ event, event ∈ second ↔ event ∈ first) :
    ∃ projection other, first.foldlM (handle part) empty = .ok projection ∧
      second.foldlM (handle part) empty = .ok other ∧
      (∀ itemId item, projection.item? itemId = some item ↔
        item.itemId = itemId ∧ ∃ event, ShowsLast part first event item) ∧
      (∀ itemId, projection.item? itemId = none ↔
        itemId ∉ (first.filterMap (view? part)).map ItemDetails.itemId) ∧
      projection.size = ((first.filterMap (view? part)).map ItemDetails.itemId).toFinset.card ∧
      (∀ itemId, other.item? itemId = projection.item? itemId) ∧ other.size = projection.size ∧
      ∀ roomId, (other.itemsInRoom roomId).Perm (projection.itemsInRoom roomId) := by
  obtain ⟨projection, taken, tracks⟩ := exists_tracks consistent.shows
  obtain ⟨other, takenOther, tracksOther⟩ := exists_tracks (consistent.congr same).shows
  obtain rfl := consistent.eq_of_tracks same tracks tracksOther
  refine ⟨other, other, taken, takenOther, fun _ _ => consistent.item?_eq_some tracks,
    fun _ => consistent.item?_eq_none tracks, consistent.size_eq tracks, fun _ => rfl, rfl, fun _ => .refl _⟩

def counted (itemId : String) (quantity : UInt32) (version : Nat) : Event Fact :=
  .of (streamOf ⟨"h"⟩) (.itemUpdated ⟨"h", "kitchen", itemId, "Salt", "", quantity⟩) 0 version

/-- A late event of one item, an event of another one between the two, and one that comes again. -/
theorem Consistent.converges_late :
    let first := [counted "salt" 3 7, counted "rice" 1 5, counted "salt" 2 4]
    let second := [counted "salt" 2 4, counted "salt" 3 7, counted "salt" 2 4, counted "rice" 1 5]
    Consistent Part.whole first ∧ (∀ event, event ∈ second ↔ event ∈ first) ∧
      ∃ projection other, first.foldlM (handle Part.whole) empty = .ok projection ∧
        second.foldlM (handle Part.whole) empty = .ok other ∧
        (projection.item? "salt").map ItemDetails.quantity = some 3 ∧ projection.size = 2 ∧
        other.item? "salt" = projection.item? "salt" := by
  intro first second
  have consistent : Consistent Part.whole first := by
    constructor <;> simp [first, counted, Event.of, view?, Part.whole, itemOf?]
  have same (event : Event Fact) : event ∈ second ↔ event ∈ first := by
    simp only [first, second, List.mem_cons, List.not_mem_nil, or_false]
    tauto
  obtain ⟨projection, other, taken, takenOther, found, -, size, alike, -⟩ := consistent.converges same
  have last : ShowsLast Part.whole first (counted "salt" 3 7) ⟨"h", "kitchen", "salt", "Salt", "", 3⟩ := by
    constructor <;> simp [first, counted, Event.of, view?, Part.whole, itemOf?]
  refine ⟨consistent, same, projection, other, taken, takenOther, ?_, size, alike _⟩
  rw [(found "salt" _).mpr ⟨rfl, _, last⟩]
  rfl

end

end Inventory.Household.Projection
