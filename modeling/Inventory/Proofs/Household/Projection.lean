import Inventory.Proofs.Household.Contents
import Inventory.Proofs.Household.Wire
import Inventory.Proofs.Table

/-! The items of all households as messages show them. The projection keeps for every item the latest of what it was
shown, whatever the order of the messages and however often each of them came. It knows an item by its identifier
alone, while a household has items room by room, so an item that is in use in two places is there to see in one. -/
namespace Inventory.Household

namespace Projection

def deliver (projection : Projection) (messages : List (List UInt8)) : Projection :=
  messages.foldl (fun projection message => ((handler Part.whole).react eventRegistry projection message).1) projection

/-- The item that a message shows, and the version of its household at that. -/
def shown? (message : List UInt8) : Option (Nat × ItemDetails) :=
  match eventRegistry.unmarshal message with
  | .error _ => none
  | .ok event => (itemOf? event.data).map fun item => (event.version, item)

/-- The projection has for every item the latest of what was shown of it. -/
structure Tracks (projection : Projection) (shown : List (Nat × ItemDetails)) : Prop where
  sorted : Table.Sorted projection.entries
  known : ∀ itemId version item, projection.entry? itemId = some (version, item) →
    item.itemId = itemId ∧ (version, item) ∈ shown
  latest : ∀ version item, (version, item) ∈ shown → version ≤ projection.lastVersion item.itemId

theorem tracks_empty : empty.Tracks [] where
  sorted := .nil
  known _ _ _ found := nomatch found
  latest _ _ member := nomatch member

theorem entry?_insert (projection : Projection) (version : Nat) (item : ItemDetails) (itemId : String) :
    entry? ⟨projection.entries.insert item.itemId (version, item)⟩ itemId =
      if itemId = item.itemId then some (version, item) else projection.entry? itemId :=
  Table.find?_insert ..

theorem Tracks.put {projection : Projection} {shown : List (Nat × ItemDetails)} (tracks : projection.Tracks shown)
    (version : Nat) (item : ItemDetails) : (projection.put version item).Tracks (shown ++ [(version, item)]) := by
  unfold Projection.put
  split
  next late =>
    refine ⟨tracks.sorted, fun itemId at' other found => ?_, fun at' other member => ?_⟩
    · obtain ⟨same, inside⟩ := tracks.known itemId at' other found
      exact ⟨same, List.mem_append_left _ inside⟩
    · rcases List.mem_append.mp member with old | new
      · exact tracks.latest at' other old
      · cases List.mem_singleton.mp new
        exact late
  next later =>
    refine ⟨tracks.sorted.insert _ _, fun itemId at' other found => ?_, fun at' other member => ?_⟩
    · rw [entry?_insert] at found
      split at found
      next here =>
        cases found
        exact ⟨here.symm, List.mem_append_right _ List.mem_cons_self⟩
      next elsewhere =>
        obtain ⟨same, inside⟩ := tracks.known itemId at' other found
        exact ⟨same, List.mem_append_left _ inside⟩
    · rw [lastVersion, entry?_insert]
      rcases List.mem_append.mp member with old | new
      · have before := tracks.latest at' other old
        split
        next here =>
          rw [here] at before
          exact Nat.le_trans before (Nat.le_of_lt (Nat.lt_of_not_le later))
        next elsewhere => exact before
      · cases List.mem_singleton.mp new
        rw [if_pos rfl]
        exact Nat.le_refl _

section
variable {stream : StreamId} {timestamp : Int} {version : Nat}

theorem unmarshal_recordOf (fact : Fact) (timestampFits : Json.Kind.integer64.Fits timestamp)
    (versionFits : Json.Kind.natural64.Fits version) :
    eventRegistry.unmarshal (recordOf stream fact timestamp version).bytes =
      .ok (Event.of stream fact timestamp version) := by
  rw [eventRegistry.unmarshal_bytes (portable_recordOf stream fact timestampFits versionFits)]
  exact decodeRecord_recordOf (show EventRegistry.empty.registerAll _ = (eventRegistry, none) from rfl) ..

theorem shown?_recordOf (fact : Fact) (timestampFits : Json.Kind.integer64.Fits timestamp)
    (versionFits : Json.Kind.natural64.Fits version) :
    shown? (recordOf stream fact timestamp version).bytes = (itemOf? fact).map fun item => (version, item) := by
  rw [shown?, unmarshal_recordOf fact timestampFits versionFits]
  rfl

theorem eventType_mem_interest (fact : Fact) : fact.eventType ∈ interest ↔ (itemOf? fact).isSome = true := by
  cases fact with
  | created => exact iff_of_false (show Fact.createdType ∉ interest by decide) Bool.false_ne_true
  | roomAdded => exact iff_of_false (show Fact.roomAddedType ∉ interest by decide) Bool.false_ne_true
  | itemAdded => exact iff_of_true (show Fact.itemAddedType ∈ interest by decide) rfl
  | itemUpdated => exact iff_of_true (show Fact.itemUpdatedType ∈ interest by decide) rfl

theorem react_recordOf (projection : Projection) (fact : Fact) (timestampFits : Json.Kind.integer64.Fits timestamp)
    (versionFits : Json.Kind.natural64.Fits version) :
    ((handler Part.whole).react eventRegistry projection (recordOf stream fact timestamp version).bytes).1 =
      match itemOf? fact with
      | none => projection
      | some item => projection.put version item := by
  have decoded := decodeRecord_recordOf (show EventRegistry.empty.registerAll _ = (eventRegistry, none) from rfl)
    stream fact timestamp version
  have wanted : (recordOf stream fact timestamp version).eventType ∈ (handler Part.whole).interest ↔
      (itemOf? fact).isSome = true := eventType_mem_interest fact
  rw [Handler.react, Record.read_bytes (portable_recordOf stream fact timestampFits versionFits)]
  dsimp only
  cases shows : itemOf? fact with
  | none =>
    rw [shows] at wanted
    rw [if_pos fun inside => nomatch wanted.mp inside]
  | some item =>
    rw [shows] at wanted
    have handled : react Part.whole projection (Event.of stream fact timestamp version) =
        (projection.put version item, .handled) := by
      have found : (Part.whole.fact? (Event.of stream fact timestamp version).data).bind itemOf? = some item := shows
      rw [react, handle, found]
      rfl
    rw [if_neg (not_not.mpr (wanted.mpr rfl)), decoded]
    exact congrArg Prod.fst handled

end

/-- A message that a fact travels as, with numbers that its reader has the bits for. -/
def IsSent (message : List UInt8) : Prop :=
  ∃ stream fact timestamp version, Json.Kind.integer64.Fits timestamp ∧ Json.Kind.natural64.Fits version ∧
    message = (recordOf stream fact timestamp version).bytes

theorem deliver_concat (projection : Projection) (messages : List (List UInt8)) (message : List UInt8) :
    projection.deliver (messages ++ [message]) =
      ((handler Part.whole).react eventRegistry (projection.deliver messages) message).1 :=
  List.foldl_append

/-- Whatever the order of messages, and however often they come. -/
theorem tracks_deliver {messages : List (List UInt8)} (sent : ∀ message ∈ messages, IsSent message) :
    (empty.deliver messages).Tracks (messages.filterMap shown?) := by
  induction messages using List.reverseRecOn with
  | nil => exact tracks_empty
  | append_singleton messages message ih =>
    have before := ih fun other member => sent other (List.mem_append_left _ member)
    obtain ⟨stream, fact, timestamp, version, timestampFits, versionFits, rfl⟩ :=
      sent message (List.mem_append_right _ List.mem_cons_self)
    rw [deliver_concat, react_recordOf _ fact timestampFits versionFits, List.filterMap_append,
      List.filterMap_cons, shown?_recordOf fact timestampFits versionFits]
    cases itemOf? fact with
    | none =>
      rw [Option.map_none, List.filterMap_nil, List.append_nil]
      exact before
    | some item => exact before.put version item

theorem Tracks.exists_entry {projection : Projection} {shown : List (Nat × ItemDetails)}
    (tracks : projection.Tracks shown) {version : Nat} {item : ItemDetails} (member : (version, item) ∈ shown)
    (positive : 0 < version) :
    ∃ last details, projection.entry? item.itemId = some (last, details) ∧ version ≤ last := by
  have least := tracks.latest version item member
  rw [lastVersion] at least
  cases found : projection.entry? item.itemId with
  | none =>
    rw [found] at least
    exact absurd positive (Nat.not_lt.mpr least)
  | some entry =>
    rw [found] at least
    exact ⟨entry.1, entry.2, rfl, least⟩

theorem Tracks.entry_of_mem {projection : Projection} {shown : List (Nat × ItemDetails)}
    (tracks : projection.Tracks shown) {entry : String × Nat × ItemDetails} (member : entry ∈ projection.entries) :
    projection.entry? entry.1 = some entry.2 ∧ entry.2.2.itemId = entry.1 := by
  have found : projection.entry? entry.1 = some entry.2 := tracks.sorted.find?_of_mem member
  exact ⟨found, (tracks.known _ _ _ found).1⟩

theorem Tracks.entry_of_mem_items {projection : Projection} {shown : List (Nat × ItemDetails)}
    (tracks : projection.Tracks shown) {view : ItemDetails} (member : view ∈ projection.items) :
    ∃ key version, projection.entry? key = some (version, view) := by
  obtain ⟨inner, inside, rfl⟩ := List.mem_map.mp member
  obtain ⟨entry, stored, rfl⟩ := List.mem_map.mp inside
  exact ⟨entry.1, entry.2.1, (tracks.entry_of_mem stored).1⟩

theorem Tracks.itemsInRoom_eq {projection : Projection} {shown : List (Nat × ItemDetails)}
    (tracks : projection.Tracks shown) (view : ItemDetails) :
    (projection.itemsInRoom view.roomId).filter
        (fun other => other.itemId = view.itemId ∧ other.householdId = view.householdId) = [view] ↔
      ∃ version, projection.entry? view.itemId = some (version, view) := by
  constructor
  · intro only
    have member : view ∈ projection.itemsInRoom view.roomId := by
      have first : view ∈ [view] := List.mem_cons_self
      rw [← only] at first
      exact (List.mem_filter.mp first).1
    obtain ⟨key, version, found⟩ :=
      tracks.entry_of_mem_items (List.mem_filter.mp (List.mem_mergeSort.mp member)).1
    rw [← (tracks.known _ _ _ found).1] at found
    exact ⟨version, found⟩
  · rintro ⟨version, found⟩
    have alone : projection.items.filter (fun other => other.itemId = view.itemId) = [view] := by
      have same (entry : String × Nat × ItemDetails) (member : entry ∈ projection.entries) :
          Decidable.decide (entry.2.2.itemId = view.itemId) = Decidable.decide (entry.1 = view.itemId) := by
        rw [(tracks.entry_of_mem member).2]
      have stored : Table.find? projection.entries view.itemId = some (version, view) := found
      rw [items, Table.values, List.map_map, List.filter_map]
      simp only [Function.comp_def]
      rw [List.filter_congr same, tracks.sorted.filter_key, stored]
      rfl
    apply List.perm_singleton.mp
    refine ((List.mergeSort_perm _ _).filter _).trans (List.Perm.of_eq ?_)
    calc
      _ = (projection.items.filter fun other => other.itemId = view.itemId).filter fun other =>
          other.roomId = view.roomId ∧ other.householdId = view.householdId := by
        rw [List.filter_filter, List.filter_filter]
        apply List.filter_congr
        intro other _
        simp only [Bool.decide_and]
        ac_rfl
      _ = [view] := by
        rw [alone]
        simp

end Projection

/-- Histories of households, each decided fact by fact. -/
structure Histories (events : AggregateId → List (Event Fact)) : Prop where
  decided : ∀ id, Decided id ((events id).map Event.data)
  versions : ∀ id, (events id).map Event.version = List.range' 1 (events id).length

def stateOf (events : AggregateId → List (Event Fact)) (id : AggregateId) : Household :=
  (fresh id).after ((events id).map Event.data)

/-- No identifier of an item is in use in two places, whatever the households are rebuilt from. -/
def Apart (rebuilt : AggregateId → Except Fault Household) : Prop :=
  ∀ id other household another roomId otherRoom itemId, rebuilt id = .ok household → rebuilt other = .ok another →
    (household.details? roomId itemId).isSome = true → (another.details? otherRoom itemId).isSome = true →
      id = other ∧ roomId = otherRoom

/-- What was shown are the items of these histories, all of them and nothing else. -/
def ShownBy (events : AggregateId → List (Event Fact)) (shown : List (Nat × ItemDetails)) : Prop :=
  ∀ version item, (version, item) ∈ shown ↔
    ∃ id, ∃ event ∈ events id, event.version = version ∧ Projection.itemOf? event.data = some item

section
variable {events : AggregateId → List (Event Fact)} {shown : List (Nat × ItemDetails)} {projection : Projection}

theorem Histories.ascending (histories : Histories events) (id : AggregateId) :
    (events id).Pairwise fun first second => first.version < second.version := by
  have whole : ((events id).map Event.version).Pairwise (· < ·) := by
    rw [histories.versions id]
    exact List.pairwise_lt_range'
  exact List.pairwise_map.mp whole

theorem Histories.positive (histories : Histories events) {id : AggregateId} {event : Event Fact}
    (member : event ∈ events id) : 0 < event.version := by
  have inside := List.mem_map_of_mem (f := Event.version) member
  rw [histories.versions id, List.mem_range'_1] at inside
  omega

theorem ItemDetails.isOf_iff {details : ItemDetails} {roomId : RoomId} {itemId : ItemId} :
    details.isOf roomId itemId = true ↔ details.roomId = roomId.text ∧ details.itemId = itemId.text :=
  decide_eq_true_iff

theorem Histories.exists_place (histories : Histories events) {id : AggregateId} {event : Event Fact}
    (member : event ∈ events id) {item : ItemDetails} (shows : Projection.itemOf? event.data = some item) :
    ∃ roomId itemId, item.isOf roomId itemId = true ∧ ((stateOf events id).details? roomId itemId).isSome = true := by
  have inside : item ∈ itemFacts ((events id).map Event.data) :=
    List.mem_filterMap.mpr ⟨event.data, List.mem_map_of_mem member, shows⟩
  obtain ⟨_, roomId, itemId, about⟩ := (histories.decided id).exists_isOf inside
  exact ⟨roomId, itemId, about, (histories.decided id).details?_isSome inside about⟩

theorem Histories.place_eq (histories : Histories events) (apart : Apart fun id => .ok (stateOf events id))
    {id other : AggregateId} {event another : Event Fact} (member : event ∈ events id)
    (memberOther : another ∈ events other) {item otherItem : ItemDetails}
    (shows : Projection.itemOf? event.data = some item) (showsOther : Projection.itemOf? another.data = some otherItem)
    (same : item.itemId = otherItem.itemId) : id = other ∧ item.roomId = otherItem.roomId := by
  obtain ⟨roomId, itemId, about, has⟩ := histories.exists_place member shows
  obtain ⟨otherRoom, otherId, aboutOther, hasOther⟩ := histories.exists_place memberOther showsOther
  rw [(ItemDetails.isOf_iff.mp about).2, (ItemDetails.isOf_iff.mp aboutOther).2, Id.text_inj] at same
  subst same
  obtain ⟨rfl, rfl⟩ := apart id other _ _ roomId otherRoom itemId rfl rfl has hasOther
  exact ⟨rfl, (ItemDetails.isOf_iff.mp about).1.trans (ItemDetails.isOf_iff.mp aboutOther).1.symm⟩

theorem Histories.exists_details (histories : Histories events) (shownBy : ShownBy events shown)
    (tracks : projection.Tracks shown) {key : String} {version : Nat} {item : ItemDetails}
    (found : projection.entry? key = some (version, item)) :
    ∃ id roomId itemId, item.isOf roomId itemId = true ∧ (stateOf events id).details? roomId itemId = some item := by
  obtain ⟨same, inside⟩ := tracks.known _ _ _ found
  obtain ⟨id, event, member, rfl, shows⟩ := (shownBy _ _).mp inside
  obtain ⟨roomId, itemId, about, present⟩ := histories.exists_place member shows
  obtain ⟨details, has⟩ := Option.isSome_iff_exists.mp present
  obtain ⟨source, known, sourceShows, sourceAbout, last⟩ :=
    (histories.decided id).exists_last (histories.ascending id) has
  -- The last fact about the place was shown as well, so it cannot be later than what the projection has.
  have late := tracks.latest _ _ ((shownBy _ _).mpr ⟨id, source, known, rfl, sourceShows⟩)
  rw [(ItemDetails.isOf_iff.mp sourceAbout).2, ← (ItemDetails.isOf_iff.mp about).2, same, Projection.lastVersion,
    found] at late
  rw [last event member item shows about late]
  exact ⟨id, roomId, itemId, sourceAbout, has⟩

theorem Histories.exists_entry (histories : Histories events) (shownBy : ShownBy events shown)
    (tracks : projection.Tracks shown) {id : AggregateId} {roomId : RoomId} {itemId : ItemId}
    (has : ((stateOf events id).details? roomId itemId).isSome = true) :
    ∃ version item, projection.entry? itemId.text = some (version, item) := by
  obtain ⟨details, has⟩ := Option.isSome_iff_exists.mp has
  obtain ⟨event, member, shows, about, _⟩ := (histories.decided id).exists_last (histories.ascending id) has
  obtain ⟨version, item, found, _⟩ := tracks.exists_entry ((shownBy _ _).mpr ⟨id, event, member, rfl, shows⟩)
    (histories.positive member)
  rw [(ItemDetails.isOf_iff.mp about).2] at found
  exact ⟨version, item, found⟩

/-- What each household has in each room is all there to see just if no identifier is in use in two places. -/
theorem Histories.apart_iff (histories : Histories events) (shownBy : ShownBy events shown)
    (tracks : projection.Tracks shown) :
    Apart (fun id => .ok (stateOf events id)) ↔
      ∀ id roomId itemId details, (stateOf events id).details? roomId itemId = some details →
        ∃ version, projection.entry? itemId.text = some (version, details) := by
  constructor
  · intro apart id roomId itemId details has
    have here : ((stateOf events id).details? roomId itemId).isSome = true := Option.isSome_of_mem has
    obtain ⟨version, item, found⟩ := histories.exists_entry shownBy tracks here
    obtain ⟨other, otherRoom, otherItem, about, there⟩ := histories.exists_details shownBy tracks found
    -- What is there to see is about the same item, so about the same place.
    obtain rfl : otherItem = itemId :=
      Id.text_inj.mp ((ItemDetails.isOf_iff.mp about).2.symm.trans (tracks.known _ _ _ found).1)
    obtain ⟨rfl, rfl⟩ := apart id other _ _ roomId otherRoom otherItem rfl rfl here (Option.isSome_of_mem there)
    cases has.symm.trans there
    exact ⟨version, found⟩
  · intro shows id other household another roomId otherRoom itemId first second has hasOther
    cases first
    cases second
    obtain ⟨details, has⟩ := Option.isSome_iff_exists.mp has
    obtain ⟨_, hasOther⟩ := Option.isSome_iff_exists.mp hasOther
    obtain ⟨_, found⟩ := shows id roomId itemId details has
    obtain ⟨_, foundOther⟩ := shows other otherRoom itemId _ hasOther
    cases found.symm.trans foundOther
    obtain ⟨_, _, _, _, rfl⟩ := details?_after_eq_some.mp has
    obtain ⟨_, _, _, _, same⟩ := details?_after_eq_some.mp hasOther
    obtain ⟨household, room, -⟩ := ItemDetails.mk.inj same
    exact ⟨congrArg AggregateId.mk household, Id.text_inj.mp room⟩

/-- The messages are those of the events of these histories, each with numbers that a reader has the bits for. -/
structure Carries (events : AggregateId → List (Event Fact)) (messages : List (List UInt8)) : Prop where
  mem_iff : ∀ message, message ∈ messages ↔ ∃ id, ∃ event ∈ events id,
    (recordOf (streamOf id) event.data event.timestamp event.version).bytes = message
  fits : ∀ id, ∀ event ∈ events id,
    Json.Kind.integer64.Fits event.timestamp ∧ Json.Kind.natural64.Fits event.version

variable {messages : List (List UInt8)}

theorem Carries.shownBy (carries : Carries events messages) :
    ShownBy events (messages.filterMap Projection.shown?) := by
  have shows (id : AggregateId) (event : Event Fact) (member : event ∈ events id) :
      Projection.shown? (recordOf (streamOf id) event.data event.timestamp event.version).bytes =
        (Projection.itemOf? event.data).map fun item => (event.version, item) :=
    Projection.shown?_recordOf event.data (carries.fits id event member).1 (carries.fits id event member).2
  intro version item
  rw [List.mem_filterMap]
  constructor
  · rintro ⟨message, member, seen⟩
    obtain ⟨id, event, inside, rfl⟩ := (carries.mem_iff message).mp member
    rw [shows id event inside] at seen
    obtain ⟨shown, there, same⟩ := Option.map_eq_some_iff.mp seen
    cases same
    exact ⟨id, event, inside, rfl, there⟩
  · rintro ⟨id, event, inside, rfl, there⟩
    refine ⟨_, (carries.mem_iff _).mpr ⟨id, event, inside, rfl⟩, ?_⟩
    rw [shows id event inside, there]
    rfl

theorem Carries.tracks (carries : Carries events messages) :
    (Projection.empty.deliver messages).Tracks (messages.filterMap Projection.shown?) := by
  apply Projection.tracks_deliver
  intro message member
  obtain ⟨id, event, inside, rfl⟩ := (carries.mem_iff message).mp member
  exact ⟨_, _, _, _, (carries.fits id event inside).1, (carries.fits id event inside).2, rfl⟩

theorem Carries.exists_item (carries : Carries events messages) (histories : Histories events) {view : ItemDetails}
    (member : view ∈ (Projection.empty.deliver messages).items) :
    ∃ id roomId room itemId item, (stateOf events id).rooms.room? roomId = some room ∧
      room.item? itemId = some item ∧
        view = ⟨id.text, roomId.text, itemId.text, item.name.text, item.barcode, item.quantity⟩ := by
  obtain ⟨key, version, found⟩ := carries.tracks.entry_of_mem_items member
  obtain ⟨id, roomId, itemId, _, has⟩ := histories.exists_details carries.shownBy carries.tracks found
  obtain ⟨room, item, there, inside, same⟩ := details?_after_eq_some.mp has
  exact ⟨id, roomId, room, itemId, item, there, inside, same⟩

/-- It has all that the households have in their rooms just if no identifier of an item is in use in two places. -/
theorem Carries.apart_iff (carries : Carries events messages) (histories : Histories events) :
    Apart (fun id => .ok (stateOf events id)) ↔
      ∀ id roomId room itemId item, (stateOf events id).rooms.room? roomId = some room →
        room.item? itemId = some item →
          ((Projection.empty.deliver messages).itemsInRoom roomId.text).filter
              (fun view => view.itemId = itemId.text ∧ view.householdId = id.text) =
            [⟨id.text, roomId.text, itemId.text, item.name.text, item.barcode, item.quantity⟩] := by
  rw [histories.apart_iff carries.shownBy carries.tracks]
  constructor
  · intro shows id roomId room itemId item there inside
    have has := shows id roomId itemId _ (details?_after_eq_some.mpr ⟨room, item, there, inside, rfl⟩)
    exact (carries.tracks.itemsInRoom_eq ⟨id.text, roomId.text, itemId.text, _, _, _⟩).mpr has
  · intro shows id roomId itemId details has
    obtain ⟨room, item, there, inside, rfl⟩ := details?_after_eq_some.mp has
    have only := shows id roomId room itemId item there inside
    exact (carries.tracks.itemsInRoom_eq ⟨id.text, roomId.text, itemId.text, _, _, _⟩).mp only

end

end Inventory.Household
