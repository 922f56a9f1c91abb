import Inventory.Proofs.Household.Projection
import Inventory.Proofs.Traffic.Heard

/-! The read model and the write model. Dispatches for households publish on a bus that stays open, and the projection
is shown the log, in any order and with repetitions. Once all that was stored has been published, what it has is what
households have in their rooms. It has all of it just if no identifier of an item is in use in two places, which no
household sees to: each looks only in the room that the item goes to. -/
namespace Inventory.Household

section
variable {Handlers : Type} {traffic : Traffic Fact Handlers Household Command}

/-- A move of dispatches for households on an open bus. -/
def IsHeard : Move Fact Handlers Household Command → Prop
  | .start started _ _ => ∃ retry, started = commandBus .eventBus retry
  | .interlude between => between.KeepsLog ∧ between.KeepsOpen
  | .step _ _ | .drop _ => True

theorem IsHeard.onBus {move : Move Fact Handlers Household Command} (heard : IsHeard move) : move.OnBus := by
  cases move with
  | start started moment command =>
    obtain ⟨retry, rfl⟩ := heard
    rfl
  | interlude between => exact heard.1
  | step | drop => trivial

theorem IsHeard.keepsOpen {move : Move Fact Handlers Household Command} (heard : IsHeard move) :
    move.KeepsOpen := by
  cases move with
  | interlude between => exact heard.2
  | start | step | drop => trivial

theorem records_eq_map (sound : traffic.Sound eventRegistry .empty) {commit : Commit Fact Handlers Household Command}
    (stored : commit ∈ Journal.commits traffic.journal) :
    commit.records = commit.events.map fun event =>
      recordOf commit.stream event.data event.timestamp event.version := by
  obtain ⟨_, justified⟩ := sound.journal.justified_of_mem stored
  exact Except.ok.inj ((Journal.taken_in justified).1.symm.trans (toRecords_stamped justified.1))

theorem mem_rows (sound : traffic.Sound eventRegistry .empty) {id : AggregateId} {event : Event Fact}
    (member : event ∈ Journal.events traffic.journal (streamOf id)) :
    recordOf (streamOf id) event.data event.timestamp event.version ∈ traffic.rows (streamOf id) := by
  obtain ⟨commit, found, inside⟩ := List.mem_flatMap.mp member
  obtain ⟨stored, here⟩ := List.mem_filter.mp found
  have present : recordOf commit.stream event.data event.timestamp event.version ∈ commit.records := by
    rw [records_eq_map sound stored]
    exact List.mem_map_of_mem inside
  have row := sound.journal.mem_records stored present
  rw [of_decide_eq_true here] at row
  rw [sound.rows_eq]
  exact row

def happened (traffic : Traffic Fact Handlers Household Command) (id : AggregateId) : List (Event Fact) :=
  Journal.events traffic.journal (streamOf id)

/-- What was sent is what has happened in the households. -/
theorem mem_log_iff (sound : traffic.Sound eventRegistry .empty) (effected : traffic.Effected) (heard : traffic.Heard)
    (logged : traffic.Logged []) (settled : traffic.Settled)
    (households : ∀ entry ∈ traffic.journal, ∃ publisher retry, entry.attempt.commandBus = commandBus publisher retry)
    {message : List UInt8} :
    message ∈ traffic.world.side.bus.log ↔ ∃ id, ∃ event ∈ happened traffic id,
      (recordOf (streamOf id) event.data event.timestamp event.version).bytes = message := by
  rw [settled.mem_log effected heard sound logged]
  constructor
  · rintro ⟨commit, stored, record, inside, same⟩
    obtain ⟨earlier, later, split⟩ := Journal.mem_commits stored
    obtain ⟨publisher, retry, ofCommandBus⟩ := households commit.entry (by rw [split]; simp)
    have here : commit.stream = streamOf ⟨commit.attempt.command.householdId⟩ := by
      change commit.attempt.commandBus.target commit.attempt.command = _
      change commit.attempt.commandBus = _ at ofCommandBus
      rw [ofCommandBus]
      rfl
    rw [records_eq_map sound stored] at inside
    obtain ⟨event, member, rfl⟩ := List.mem_map.mp inside
    rw [here] at same
    refine ⟨_, event, List.mem_flatMap.mpr ⟨commit, List.mem_filter.mpr ⟨stored, ?_⟩, member⟩, same⟩
    exact decide_eq_true here
  · rintro ⟨id, event, member, same⟩
    obtain ⟨commit, found, inside⟩ := List.mem_flatMap.mp member
    obtain ⟨stored, here⟩ := List.mem_filter.mp found
    refine ⟨commit, stored, _, ?_, same⟩
    rw [records_eq_map sound stored, of_decide_eq_true here]
    exact List.mem_map_of_mem inside

theorem histories_happened (sound : traffic.Sound eventRegistry .empty)
    (households : ∀ entry ∈ traffic.journal, ∃ publisher retry, entry.attempt.commandBus = commandBus publisher retry) :
    Histories (happened traffic) where
  decided id := (replays_journal sound.journal households id).decided
  versions id := by
    have dense := (sound.journal.growing EventStore.contiguous_empty).here (streamOf id)
    exact (replays_journal sound.journal households id).versions dense

theorem happened_eq_filter {events : List (Event Fact)} (id : AggregateId)
    (stored : (Journal.commits traffic.journal).map (fun commit => (commit.stream, commit.events)) =
      events.map fun event => (event.stream, [event])) :
    happened traffic id = events.filter (·.stream = streamOf id) := by
  calc
    _ = (((Journal.commits traffic.journal).map fun commit => (commit.stream, commit.events)).filter
        (·.1 = streamOf id)).flatMap Prod.snd := by
      rw [List.filter_map, List.flatMap_map]
      rfl
    _ = events.filter (·.stream = streamOf id) := by
      rw [stored, List.filter_map, List.flatMap_map, List.flatMap_singleton']
      rfl

theorem rebuild_eq (sound : traffic.Sound eventRegistry .empty)
    (households : ∀ entry ∈ traffic.journal, ∃ publisher retry, entry.attempt.commandBus = commandBus publisher retry)
    (id : AggregateId) :
    ((commandBus .eventBus .once).engine eventRegistry 1).rebuild traffic.world (streamOf id) =
      .ok (stateOf (happened traffic) id) := by
  have replays := replays_journal sound.journal households id
  rw [← sound.rows_eq] at replays
  exact replays.rebuild .eventBus .once

end

section
variable {Handlers : Type} {moves : List (Move Fact Handlers Household Command)}

theorem households_run (deployment : Deployment Fact Handlers) (heard : ∀ move ∈ moves, IsHeard move) :
    ∀ entry ∈ ((Traffic.opening deployment).run eventRegistry moves).journal,
      ∃ publisher retry, entry.attempt.commandBus = commandBus publisher retry := by
  have ofCommandBuses : ((Traffic.opening deployment).run eventRegistry moves).OfCommandBuses
      fun started => ∃ publisher retry, started = commandBus publisher retry := by
    apply (Traffic.ofCommandBuses_opening _ deployment).run moves
    intro started moment command member
    obtain ⟨retry, same⟩ := heard _ member
    exact ⟨_, retry, same⟩
  exact ofCommandBuses.journal

/-- Once all that was stored has been published, messages that are those of the log are those of what has happened. -/
theorem carries_run (deployment : Deployment Fact Handlers) (moves : List (Move Fact Handlers Household Command))
    (messages : List (List UInt8)) (empty : deployment.side.bus.log = [])
    (available : deployment.side.bus.available = true) (heard : ∀ move ∈ moves, IsHeard move) :
    let traffic := (Traffic.opening deployment.vacant).run eventRegistry moves
    traffic.Settled → (∀ message, message ∈ messages ↔ message ∈ traffic.world.side.bus.log) →
    (∀ id, ∀ event ∈ happened traffic id,
      Json.Kind.integer64.Fits event.timestamp ∧ Json.Kind.natural64.Fits event.version) →
    Carries (happened traffic) messages := by
  intro traffic settled delivered fits
  have onBus : ∀ move ∈ moves, move.OnBus := fun move member => (heard move member).onBus
  have sound : traffic.Sound eventRegistry .empty := Traffic.sound_run eventRegistry deployment moves
  have effected : traffic.Effected := (Traffic.effected_opening deployment.vacant).run moves
  have opening : (Traffic.opening deployment.vacant : Traffic Fact Handlers Household Command).Logged [] := by
    rw [← empty]
    exact Traffic.logged_opening deployment.vacant
  have reached : traffic.Heard :=
    (Traffic.heard_opening (show deployment.vacant.side.bus.available = true from available)).run
      (Traffic.sound_opening eventRegistry deployment.vacant) opening onBus
      fun move member => (heard move member).keepsOpen
  refine ⟨fun message => (delivered message).trans ?_, fits⟩
  exact mem_log_iff sound effected reached (opening.run onBus) settled (households_run _ heard)

end

/-- Once all that was stored has been published, and the projection was shown every message of the log and no other:
each item that it has is in the room of a household, as the household has it; and it has each item of each household in
its room, once and as the household has it, just if no identifier of an item is in use in two places. -/
theorem projected_run {Handlers : Type} (deployment : Deployment Fact Handlers)
    (moves : List (Move Fact Handlers Household Command)) (messages : List (List UInt8))
    (empty : deployment.side.bus.log = []) (available : deployment.side.bus.available = true)
    (heard : ∀ move ∈ moves, IsHeard move) :
    let traffic := (Traffic.opening deployment.vacant).run eventRegistry moves
    let rebuilt (id : AggregateId) :=
      ((commandBus .eventBus .once).engine eventRegistry 1).rebuild traffic.world (streamOf id)
    let projection := Projection.empty.deliver messages
    traffic.Settled → (∀ message, message ∈ messages ↔ message ∈ traffic.world.side.bus.log) →
    (∀ id, ∀ row ∈ traffic.rows (streamOf id),
      Json.Kind.integer64.Fits row.timestamp ∧ Json.Kind.natural64.Fits row.version) →
    (∀ view ∈ projection.items, ∃ id household roomId room itemId item, rebuilt id = .ok household ∧
      household.rooms.room? roomId = some room ∧ room.item? itemId = some item ∧
        view = ⟨id.text, roomId.text, itemId.text, item.name.text, item.barcode, item.quantity⟩) ∧
    ((∀ id, ∃ household, rebuilt id = .ok household ∧ ∀ roomId room itemId item,
      household.rooms.room? roomId = some room → room.item? itemId = some item →
        (projection.itemsInRoom roomId.text).filter
            (fun view => view.itemId = itemId.text ∧ view.householdId = id.text) =
          [⟨id.text, roomId.text, itemId.text, item.name.text, item.barcode, item.quantity⟩]) ↔ Apart rebuilt) := by
  intro traffic rebuilt projection settled delivered fits
  have sound : traffic.Sound eventRegistry .empty := Traffic.sound_run eventRegistry deployment moves
  have households := households_run deployment.vacant heard
  have histories : Histories (happened traffic) := histories_happened sound households
  have carries : Carries (happened traffic) messages :=
    carries_run deployment moves messages empty available heard settled delivered
      fun id event member => fits id _ (mem_rows sound member)
  have states : rebuilt = fun id => .ok (stateOf (happened traffic) id) := funext (rebuild_eq sound households)
  rw [states, carries.apart_iff histories]
  refine ⟨fun view member => ?_, fun shows id roomId room itemId item => ?_, fun shows id => ⟨_, rfl, shows id⟩⟩
  · obtain ⟨id, roomId, room, itemId, item, there, inside, same⟩ := carries.exists_item histories member
    exact ⟨id, _, roomId, room, itemId, item, rfl, there, inside, same⟩
  · obtain ⟨_, same, inside⟩ := shows id
    cases same
    exact inside roomId room itemId item

/-- A household gets a room and an item in it, one dispatch after the other, the first of them at this index. -/
def furnishing (index : Nat) (household room item : String) : List (Move Fact Unit Household Command) :=
  let start (command : Command) : Move Fact Unit Household Command :=
    .start (commandBus .eventBus .standard) ⟨0, .zero⟩ command
  start (.createHousehold ⟨household, "0123456789abcdef0123456789ABCDEF", "Home"⟩) ::
    List.replicate 7 (.step index ⟨1, .zero⟩) ++
    start (.addRoom ⟨household, room, "Kitchen"⟩) :: List.replicate 7 (.step (index + 1) ⟨3, .zero⟩) ++
    start (.addItem ⟨household, room, item, "Salt", "", 2⟩) :: List.replicate 7 (.step (index + 2) ⟨5, .zero⟩)

theorem isHeard_furnishing (index : Nat) (household room item : String) :
    ∀ move ∈ furnishing index household room item, IsHeard move := by
  have started (command : Command) :
      IsHeard (.start (commandBus .eventBus .standard) ⟨0, .zero⟩ command : Move Fact Unit Household Command) :=
    ⟨_, rfl⟩
  have stepped (index : Nat) (moment : Moment) :
      ∀ move ∈ List.replicate 7 (.step index moment : Move Fact Unit Household Command), IsHeard move := by
    intro move member
    rw [List.eq_of_mem_replicate member]
    trivial
  simp only [furnishing, List.forall_mem_append, List.forall_mem_cons]
  exact ⟨⟨⟨started _, stepped _ _⟩, started _, stepped _ _⟩, started _, stepped _ _⟩

/-- The log backwards and then once more is as good as the log. -/
theorem projected_furnishing :
    let traffic := (Traffic.opening (Deployment.fresh none ()).vacant).run eventRegistry
      (furnishing 0 "h" "11111111111111111111111111111111" "22222222222222222222222222222222")
    let projection := Projection.empty.deliver (traffic.world.side.bus.log.reverse ++ traffic.world.side.bus.log)
    ∃ roomId : RoomId, ∃ itemId : ItemId,
      (projection.itemsInRoom roomId.text).filter (fun view => view.itemId = itemId.text ∧ view.householdId = "h") =
        [⟨"h", roomId.text, itemId.text, "Salt", "", 2⟩] := by
  intro traffic projection
  obtain ⟨rows, streams, fit⟩ : ∃ rows, traffic.world.store.streams = [(streamOf ⟨"h"⟩, rows)] ∧
      rows.map (fun row => (row.timestamp, row.version)) = [(1, 1), (3, 2), (5, 3)] := ⟨_, rfl, rfl⟩
  obtain ⟨home, roomId, room, itemId, item, rebuilt, rooms, items, name, barcode, quantity⟩ :
      ∃ home roomId room itemId item,
        ((commandBus .eventBus .once).engine eventRegistry 1).rebuild traffic.world (streamOf ⟨"h"⟩) = .ok home ∧
          home.rooms.table = [(roomId, room)] ∧ room.items = [(itemId, item)] ∧ item.name.text = "Salt" ∧
            item.barcode = "" ∧ item.quantity = 2 := ⟨_, _, _, _, _, rfl, rfl, rfl, rfl, rfl, rfl⟩
  have empty (id : AggregateId) (other : id ≠ ⟨"h"⟩) : traffic.rows (streamOf id) = [] := by
    have apart : streamOf id ≠ streamOf ⟨"h"⟩ := fun same => other (congrArg StreamId.aggregateId same)
    rw [Traffic.rows, EventStore.records, streams, Table.find?, if_neg apart]
    rfl
  have only (id : AggregateId) (household : Household) (place : RoomId) (thing : ItemId)
      (same : ((commandBus .eventBus .once).engine eventRegistry 1).rebuild traffic.world (streamOf id) = .ok household)
      (present : (household.details? place thing).isSome = true) : id = ⟨"h"⟩ ∧ place = roomId := by
    by_cases here : id = ⟨"h"⟩
    · subst here
      cases rebuilt.symm.trans same
      refine ⟨rfl, ?_⟩
      by_contra other
      rw [details?, Rooms.room?, rooms, Table.find?, if_neg other] at present
      cases present
    · have fresh := (show Replays id (traffic.rows (streamOf id)) [] by
        rw [empty id here]
        exact replays_nil id).rebuild .eventBus .once
      cases fresh.symm.trans same
      cases present
  have whole := projected_run (Deployment.fresh none ())
    (furnishing 0 "h" "11111111111111111111111111111111" "22222222222222222222222222222222")
    (traffic.world.side.bus.log.reverse ++ traffic.world.side.bus.log) rfl rfl (isHeard_furnishing 0 _ _ _)
    (Traffic.settled_of_ended (List.all_eq_true.mp rfl)) (by simp [traffic]) ?_
  · obtain ⟨_, same, inside⟩ := whole.2.mpr (fun id other household another place otherPlace thing first second has
      hasOther => by
        obtain ⟨rfl, rfl⟩ := only id household place thing first has
        obtain ⟨rfl, rfl⟩ := only other another otherPlace thing second hasOther
        exact ⟨rfl, rfl⟩) ⟨"h"⟩
    cases rebuilt.symm.trans same
    refine ⟨roomId, itemId, ?_⟩
    rw [← name, ← barcode, ← quantity]
    apply inside roomId room itemId item
    · rw [Rooms.room?, rooms, Table.find?, if_pos rfl]
    · rw [Room.item?, items, Table.find?, if_pos rfl]
  · intro id row member
    by_cases here : id = ⟨"h"⟩
    · subst here
      rw [Traffic.rows, EventStore.records, streams, Table.find?, if_pos rfl] at member
      have numbers : ∀ pair ∈ rows.map (fun row => (row.timestamp, row.version)),
          Json.Kind.integer64.Fits pair.1 ∧ Json.Kind.natural64.Fits pair.2 := by
        rw [fit]
        decide
      exact numbers _ (List.mem_map_of_mem member)
    · rw [empty id here] at member
      cases member

/-- Two households with an item of one identifier, each in a room of its own. -/
def sharing : List (Move Fact Unit Household Command) :=
  furnishing 0 "g" "11111111111111111111111111111111" "22222222222222222222222222222222" ++
    furnishing 3 "h" "33333333333333333333333333333333" "22222222222222222222222222222222"

def sharedItem (household room : String) : ItemDetails :=
  ⟨household, room, "22222222-2222-2222-2222-222222222222", "Salt", "", 2⟩

/-- What happens in the two households. The clock never goes back, so the second one is at the time that the first one
got to. -/
def sharingEvents : List (Event Fact) :=
  let events (household room : String) (created added : Int) : List (Event Fact) :=
    [.of (streamOf ⟨household⟩) (.created ⟨household, "01234567-89ab-cdef-0123-456789abcdef", "Home"⟩) created 1,
      .of (streamOf ⟨household⟩) (.roomAdded ⟨household, room, "Kitchen"⟩) added 2,
      .of (streamOf ⟨household⟩) (.itemAdded (sharedItem household room)) 5 3]
  events "g" "11111111-1111-1111-1111-111111111111" 1 3 ++ events "h" "33333333-3333-3333-3333-333333333333" 5 5

/-- So no delivery shows all that is in the rooms of these two: the item that comes last is taken for one that came
again. -/
theorem overlooked :
    let traffic := (Traffic.opening (Deployment.fresh none ()).vacant).run eventRegistry sharing
    let rebuilt (id : AggregateId) :=
      ((commandBus .eventBus .once).engine eventRegistry 1).rebuild traffic.world (streamOf id)
    let projection := Projection.empty.deliver traffic.world.side.bus.log
    (∀ move ∈ sharing, IsHeard move) ∧ traffic.Settled ∧
      ¬ ∀ id, ∃ household, rebuilt id = .ok household ∧ ∀ roomId room itemId item,
        household.rooms.room? roomId = some room → room.item? itemId = some item →
          (projection.itemsInRoom roomId.text).filter
              (fun view => view.itemId = itemId.text ∧ view.householdId = id.text) =
            [⟨id.text, roomId.text, itemId.text, item.name.text, item.barcode, item.quantity⟩] := by
  intro traffic rebuilt projection
  have heard : ∀ move ∈ sharing, IsHeard move :=
    List.forall_mem_append.mpr ⟨isHeard_furnishing 0 _ _ _, isHeard_furnishing 3 _ _ _⟩
  have settled : traffic.Settled := Traffic.settled_of_ended (List.all_eq_true.mp rfl)
  refine ⟨heard, settled, fun agrees => ?_⟩
  have stored : (Journal.commits traffic.journal).map (fun commit => (commit.stream, commit.events)) =
      sharingEvents.map fun event => (event.stream, [event]) := by
    rfl
  have parts (id : AggregateId) : happened traffic id = sharingEvents.filter (·.stream = streamOf id) :=
    happened_eq_filter id stored
  have households := households_run (Deployment.fresh none ()).vacant heard
  have sound : traffic.Sound eventRegistry .empty := Traffic.sound_run eventRegistry (Deployment.fresh none ()) sharing
  have histories : Histories (happened traffic) := histories_happened sound households
  have carries : Carries (happened traffic) traffic.world.side.bus.log := by
    have fits : ∀ event ∈ sharingEvents,
        Json.Kind.integer64.Fits event.timestamp ∧ Json.Kind.natural64.Fits event.version := by
      decide
    have whole := carries_run (Deployment.fresh none ()) sharing traffic.world.side.bus.log rfl rfl heard
    refine whole settled (by simp [traffic]) fun id event member => ?_
    rw [parts] at member
    exact fits event (List.mem_filter.mp member).1
  have apart : Apart fun id => .ok (stateOf (happened traffic) id) := by
    refine (carries.apart_iff histories).mpr fun id roomId room itemId item there inside => ?_
    obtain ⟨_, same, shows⟩ := agrees id
    cases (rebuild_eq sound households id).symm.trans same
    exact shows roomId room itemId item there inside
  have added (id : AggregateId) (room : String)
      (member : .of (streamOf id) (.itemAdded (sharedItem id.text room)) 5 3 ∈ sharingEvents) :
      .of (streamOf id) (.itemAdded (sharedItem id.text room)) 5 3 ∈ happened traffic id := by
    rw [parts]
    exact List.mem_filter.mpr ⟨member, decide_eq_true rfl⟩
  have one := histories.place_eq apart
    (added ⟨"g"⟩ "11111111-1111-1111-1111-111111111111" (by simp [sharingEvents]))
    (added ⟨"h"⟩ "33333333-3333-3333-3333-333333333333" (by simp [sharingEvents])) rfl rfl rfl
  exact absurd one.1 (by decide)

end Inventory.Household
