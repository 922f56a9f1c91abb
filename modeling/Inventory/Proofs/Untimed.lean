import Inventory.Proofs.EventStore

/-! What does not depend on the time of a commit. A state is made of payloads alone and a version is counted,
so histories that differ in nothing but their stamps load alike, and so do the records that they are stored
as. -/
namespace Inventory
variable {Data State Command : Type}

def Record.untimed (record : Record) : Record :=
  { record with timestamp := 0 }

def Event.untimed (event : Event Data) : Event Data :=
  { event with timestamp := 0 }

@[simp] theorem Event.untimed_untimed (event : Event Data) : event.untimed.untimed = event.untimed := rfl

theorem Rules.replay_untimed (rules : Rules State Data Command) (state : State)
    (history : List (Event Data)) :
    rules.replay state (history.map Event.untimed) = rules.replay state history := by
  induction history generalizing state with
  | nil => rfl
  | cons event rest ih =>
    simp only [List.map_cons, Rules.replay, Event.untimed]
    cases rules.apply state event.data with
    | mk next fault? =>
      cases fault? with
      | some fault => rfl
      | none => exact ih next

namespace AggregateRegistry

theorem lastVersion_untimed (history : List (Event Data)) :
    lastVersion (history.map Event.untimed) = lastVersion history := by
  simp only [lastVersion, List.getLast?_map]
  cases history.getLast? <;> rfl

theorem load_untimed (registry : AggregateRegistry State Data) (rules : Rules State Data Command)
    (stream : StreamId) (history : List (Event Data)) :
    registry.load rules stream (history.map Event.untimed) = registry.load rules stream history := by
  simp only [load, lastVersion_untimed, Rules.replay_untimed]

theorem load_congr (registry : AggregateRegistry State Data) (rules : Rules State Data Command)
    (stream : StreamId) {history other : List (Event Data)}
    (same : history.map Event.untimed = other.map Event.untimed) :
    registry.load rules stream history = registry.load rules stream other := by
  rw [← registry.load_untimed rules stream history, same, load_untimed]

end AggregateRegistry

namespace EventStore

theorem place_untimed (record : Record) (rows : List Record) :
    (place record rows).map Record.untimed = place record.untimed (rows.map Record.untimed) := by
  induction rows with
  | nil => rfl
  | cons row rest ih =>
    simp only [place, List.map_cons, Record.untimed]
    split
    · exact congrArg (_ :: ·) ih
    · rfl

theorem placeAll_untimed (rows batch : List Record) :
    (placeAll rows batch).map Record.untimed = placeAll (rows.map Record.untimed) (batch.map Record.untimed) := by
  induction batch generalizing rows with
  | nil => rfl
  | cons record rest ih =>
    change (placeAll (place record rows) rest).map Record.untimed = _
    rw [ih, place_untimed]
    rfl

theorem firstClaimed?_untimed (rows batch : List Record) :
    firstClaimed? (rows.map Record.untimed) (batch.map Record.untimed) = firstClaimed? rows batch := by
  have claimed (version : Nat) : isClaimed (rows.map Record.untimed) version = isClaimed rows version := by
    rw [isClaimed, List.any_map]
    rfl
  rw [firstClaimed?, List.find?_map, Option.map_map]
  simp only [claimed, Function.comp_def]
  rfl

theorem stream_untimed (events : List (Event Data)) :
    Batch.stream (events.map Event.untimed) = Batch.stream events := by
  have checks (stream : StreamId) (first index : Nat) (list : List (Event Data)) :
      Batch.check Nat.add stream first index (list.map Event.untimed) =
        Batch.check Nat.add stream first index list := by
    induction list generalizing index with
    | nil => rfl
    | cons event rest ih => simp only [List.map_cons, Batch.check, Event.untimed, ih]
  cases events with
  | nil => rfl
  | cons event rest =>
    exact congrArg (Except.map fun _ => some event.stream) (checks event.stream event.version 0 (event :: rest))

end EventStore

variable [Payload Data]

theorem EventRegistry.decodeRecords_untimed (registry : EventRegistry Data) (rows : List Record) :
    registry.decodeRecords (rows.map Record.untimed) =
      (registry.decodeRecords rows).map (List.map Event.untimed) := by
  induction rows with
  | nil => rfl
  | cons record rest ih =>
    have first : registry.decodeRecord record.untimed =
        (registry.decodeRecord record).map Event.untimed := by
      simp only [decodeRecord, Record.untimed]
      cases registry.decode record.eventType record.data <;> rfl
    rw [List.map_cons, decodeRecords, decodeRecords, first, ih]
    cases registry.decodeRecord record with
    | error fault => rfl
    | ok event => cases registry.decodeRecords rest <;> rfl

theorem EventRegistry.decodeRecords_congr {registry : EventRegistry Data} {rows others : List Record}
    {history : List (Event Data)} (same : rows.map Record.untimed = others.map Record.untimed)
    (decoded : registry.decodeRecords rows = .ok history) :
    ∃ otherHistory, registry.decodeRecords others = .ok otherHistory ∧
      otherHistory.map Event.untimed = history.map Event.untimed := by
  have alike := registry.decodeRecords_untimed others
  rw [← same, decodeRecords_untimed, decoded] at alike
  cases other : registry.decodeRecords others with
  | error fault =>
    rw [other] at alike
    cases alike
  | ok otherHistory =>
    rw [other] at alike
    exact ⟨otherHistory, rfl, (Except.ok.inj alike).symm⟩

namespace Event

theorem toRecords_untimed (events : List (Event Data)) :
    toRecords (events.map untimed) = (toRecords events).map (List.map Record.untimed) := by
  induction events with
  | nil => rfl
  | cons event rest ih =>
    have first : toRecord event.untimed = (toRecord event).map Record.untimed := by
      simp only [toRecord, untimed]
      cases Payload.encode event.data <;> rfl
    rw [List.map_cons, toRecords, toRecords, first, ih]
    cases toRecord event with
    | error fault => rfl
    | ok record => cases toRecords rest <;> rfl

theorem toRecords_congr {events others : List (Event Data)} {batch : List Record}
    (same : events.map untimed = others.map untimed) (made : toRecords events = .ok batch) :
    ∃ otherBatch, toRecords others = .ok otherBatch ∧
      otherBatch.map Record.untimed = batch.map Record.untimed := by
  have alike := toRecords_untimed others
  rw [← same, toRecords_untimed, made] at alike
  cases other : toRecords others with
  | error fault =>
    rw [other] at alike
    cases alike
  | ok otherBatch =>
    rw [other] at alike
    exact ⟨otherBatch, rfl, (Except.ok.inj alike).symm⟩

/-- Stamping the same payloads on top of the same version makes the same events, up to their stamps. -/
theorem Stamped.untimed_eq {stream : StreamId} {version : Nat} {events others : List (Event Data)}
    (stamped : Stamped stream version events) (otherStamped : Stamped stream version others)
    (same : events.map Event.data = others.map Event.data) :
    events.map Event.untimed = others.map Event.untimed := by
  induction events generalizing version others with
  | nil =>
    cases others with
    | nil => rfl
    | cons other rest => cases same
  | cons event rest ih =>
    cases others with
    | nil => cases same
    | cons other otherRest =>
      obtain ⟨first, others⟩ := List.cons.inj same
      rw [List.map_cons, List.map_cons, ih stamped.2 otherStamped.2 others, stamped.1, otherStamped.1,
        first]
      rfl

end Event

namespace EventStore
variable {store other : EventStore} {stream : StreamId} {events : List (Event Data)}

theorem append_untimed
    (rows : (store.records stream).map Record.untimed = (other.records stream).map Record.untimed)
    (here : ∀ event ∈ events, event.stream = stream) :
    (store.append events).map (fun later => (later.records stream).map Record.untimed) =
      (other.append (events.map Event.untimed)).map fun later => (later.records stream).map Record.untimed := by
  simp only [append, stream_untimed, Event.toRecords_untimed]
  cases shape : Batch.stream events with
  | error fault => rfl
  | ok stream? =>
    cases stream? with
    | none => exact congrArg Except.ok rows
    | some addressed =>
      obtain ⟨event, member, rfl⟩ := stream_eq_some shape
      rw [here event member]
      cases Event.toRecords events with
      | error fault => rfl
      | ok batch =>
        have claims : firstClaimed? (other.records stream) (batch.map Record.untimed) =
            firstClaimed? (store.records stream) batch := by
          rw [← firstClaimed?_untimed, ← rows, List.map_map]
          exact firstClaimed?_untimed ..
        simp only [Except.map, claims]
        cases firstClaimed? (store.records stream) batch with
        | some version => rfl
        | none =>
          simp only [records_setRecords, if_true, placeAll_untimed, rows, List.map_map]
          rfl

end EventStore

theorem Record.versions_untimed (rows : List Record) :
    (rows.map Record.untimed).map Record.version = rows.map Record.version := by
  rw [List.map_map]
  rfl

end Inventory
