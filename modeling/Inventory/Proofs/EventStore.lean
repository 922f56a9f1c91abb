import Inventory.Aggregate
import Inventory.EventStore
import Inventory.Proofs.Registry
import Mathlib.Tactic.Common

/-! Appending to streams without gaps. The events of one decision are stamped with the versions that follow
the one it was made on. Where the records of a stream carry the versions from one on, such a batch is taken
in only at the very end of the stream; anywhere before it the first of its versions is claimed. -/
namespace Inventory
variable {Data : Type} [Payload Data]

/-- New events of a stream with the versions that follow a version. -/
def Event.Stamped (stream : StreamId) : Nat → List (Event Data) → Prop
  | _, [] => True
  | version, event :: rest =>
      event = Event.of stream event.data event.timestamp (version + 1) ∧
        Event.Stamped stream (version + 1) rest

/-- One stream, with versions that run on from the first one. -/
def Event.Shaped (events : List (Event Data)) : Prop :=
  ∀ first ∈ events.head?, (∀ event ∈ events, event.stream = first.stream) ∧
    ∀ index event, events[index]? = some event → event.version = first.version + index

namespace Event

theorem Stamped.concat {stream : StreamId} {version : Nat} {events : List (Event Data)}
    (stamped : Stamped stream version events) (data : Data) (timestamp : Int) :
    Stamped stream version
      (events ++ [Event.of stream data timestamp (version + events.length + 1)]) := by
  induction events generalizing version with
  | nil => exact ⟨rfl, trivial⟩
  | cons event rest ih =>
    refine ⟨stamped.1, ?_⟩
    have more := ih stamped.2
    rw [List.length_cons, show version + (rest.length + 1) = version + 1 + rest.length by omega]
    exact more

theorem Stamped.versions {stream : StreamId} {version : Nat} {events : List (Event Data)}
    (stamped : Stamped stream version events) :
    events.map Event.version = List.range' (version + 1) events.length := by
  induction events generalizing version with
  | nil => rfl
  | cons event rest ih =>
    rw [List.map_cons, List.length_cons, List.range'_succ, ih stamped.2, stamped.1]
    rfl

theorem Stamped.last_version {stream : StreamId} {version : Nat} {events : List (Event Data)}
    (stamped : Stamped stream version events) (nonempty : events ≠ []) :
    events.getLast?.map Event.version = some (version + events.length) := by
  rw [← List.getLast?_map, stamped.versions, List.getLast?_range']
  have positive := List.length_pos_iff.mpr nonempty
  rw [if_neg (by omega)]
  exact congrArg some (by omega)

theorem Stamped.of_mem {stream : StreamId} {version : Nat} {events : List (Event Data)}
    (stamped : Stamped stream version events) {event : Event Data} (member : event ∈ events) :
    event = Event.of stream event.data event.timestamp event.version := by
  induction events generalizing version with
  | nil => cases member
  | cons first rest ih =>
    rcases List.mem_cons.mp member with same | later
    · rw [same, stamped.1]
      rfl
    · exact ih stamped.2 later

theorem Stamped.stream_eq {stream : StreamId} {version : Nat} {events : List (Event Data)}
    (stamped : Stamped stream version events) {event : Event Data} (member : event ∈ events) :
    event.stream = stream := by
  rw [stamped.of_mem member]
  rfl

theorem Stamped.shaped {stream : StreamId} {version : Nat} {events : List (Event Data)}
    (stamped : Stamped stream version events) : Shaped events := by
  intro first head
  have numbered (index : Nat) (event : Event Data) (found : events[index]? = some event) :
      event.version = version + 1 + index := by
    have versions := congrArg (·[index]?) stamped.versions
    simp only [List.getElem?_map, found, Option.map_some,
      List.getElem?_range' (List.getElem?_eq_some_iff.mp found).1, Option.some.injEq] at versions
    omega
  have opening := numbered 0 first (List.head?_eq_getElem? ▸ head)
  refine ⟨fun event member => ?_, fun index event found => ?_⟩
  · rw [stamped.stream_eq member, stamped.stream_eq (List.mem_of_mem_head? head)]
  · rw [numbered index event found, opening]

theorem toRecord_eq_ok {event : Event Data} {record : Record} (made : event.toRecord = .ok record) :
    ∃ data, record = ⟨event.stream, event.eventType, data, event.timestamp, event.version⟩ := by
  unfold toRecord at made
  split at made
  · cases made
  · cases made
    exact ⟨_, rfl⟩

theorem toRecord_version {event : Event Data} {record : Record} (made : event.toRecord = .ok record) :
    record.version = event.version := by
  obtain ⟨_, rfl⟩ := toRecord_eq_ok made
  rfl

theorem toRecord_stream {event : Event Data} {record : Record} (made : event.toRecord = .ok record) :
    record.stream = event.stream := by
  obtain ⟨_, rfl⟩ := toRecord_eq_ok made
  rfl

theorem toRecords_cons (event : Event Data) (rest : List (Event Data)) (batch : List Record) :
    toRecords (event :: rest) = .ok batch ↔
      ∃ record records, event.toRecord = .ok record ∧ toRecords rest = .ok records ∧
        batch = record :: records := by
  rw [toRecords]
  cases event.toRecord with
  | error fault => simp
  | ok record =>
    cases toRecords rest with
    | error fault => simp
    | ok records => simp [eq_comm]

theorem toRecords_streams {stream : StreamId} {version : Nat} {events : List (Event Data)} {batch : List Record}
    (stamped : Stamped stream version events) (made : toRecords events = .ok batch) :
    ∀ record ∈ batch, record.stream = stream := by
  induction events generalizing version batch with
  | nil =>
    cases made
    exact nofun
  | cons event rest ih =>
    obtain ⟨record, records, first, others, rfl⟩ := (toRecords_cons event rest batch).mp made
    refine List.forall_mem_cons.mpr ⟨?_, ih stamped.2 others⟩
    rw [toRecord_stream first, stamped.1]
    rfl

/-- What a record has from its event, the records of a batch have from its events. -/
theorem toRecords_map {Value : Type} {view : Record → Value} {same : Event Data → Value}
    (alike : ∀ event record, event.toRecord = .ok record → view record = same event) {events : List (Event Data)}
    {batch : List Record} (made : toRecords events = .ok batch) : batch.map view = events.map same := by
  induction events generalizing batch with
  | nil =>
    cases made
    rfl
  | cons event rest ih =>
    obtain ⟨record, records, first, others, rfl⟩ := (toRecords_cons event rest batch).mp made
    rw [List.map_cons, List.map_cons, ih others, alike event record first]

theorem toRecords_versions {events : List (Event Data)} {batch : List Record}
    (made : toRecords events = .ok batch) : batch.map Record.version = events.map Event.version :=
  toRecords_map (fun _ _ first => toRecord_version first) made

theorem toRecords_eventTypes {events : List (Event Data)} {batch : List Record}
    (made : toRecords events = .ok batch) : batch.map Record.eventType = events.map Event.eventType := by
  refine toRecords_map (fun event record first => ?_) made
  obtain ⟨_, rfl⟩ := toRecord_eq_ok first
  rfl

theorem toRecords_length {events : List (Event Data)} {batch : List Record}
    (made : toRecords events = .ok batch) : batch.length = events.length := by
  simpa using congrArg List.length (toRecords_versions made)

theorem toRecords_fault {events : List (Event Data)} {fault : Fault}
    (failed : toRecords events = .error fault) : ∃ flaw, fault = .undecodable flaw := by
  induction events with
  | nil => cases failed
  | cons event rest ih =>
    rw [toRecords] at failed
    split at failed
    next other unmade =>
      cases failed
      unfold toRecord at unmade
      split at unmade
      · cases unmade
        exact ⟨_, rfl⟩
      · cases unmade
    next record made =>
      split at failed
      next other unmade =>
        cases failed
        exact ih unmade
      next records others => cases failed

end Event

/-- Payloads recorded one after the other on top of the version that was loaded. -/
structure Context.Recorded (stream : StreamId) (context : Context Data) : Prop where
  stream_eq : context.stream = stream
  stamped : Event.Stamped stream context.initialVersion context.uncommitted
  version_eq : context.version = context.initialVersion + context.uncommitted.length

theorem Context.Recorded.record {stream : StreamId} {context : Context Data}
    (recorded : context.Recorded stream) (data : Data) (timestamp : Int) :
    (context.record data timestamp).Recorded stream where
  stream_eq := recorded.stream_eq
  stamped := by
    have more := recorded.stamped.concat data timestamp
    rw [← recorded.version_eq, ← recorded.stream_eq] at more
    rw [← recorded.stream_eq]
    exact more
  version_eq := by
    simp only [Context.record, List.length_append, List.length_singleton, recorded.version_eq]
    omega

/-- Records that carry the versions from one on, in this order. -/
def Record.Dense (rows : List Record) : Prop :=
  rows.map Record.version = List.range' 1 rows.length

theorem Record.filter_version {rows : List Record} (distinct : (rows.map Record.version).Nodup)
    {record : Record} (inside : record ∈ rows) : rows.filter (·.version = record.version) = [record] := by
  induction rows with
  | nil => cases inside
  | cons row rest ih =>
    rw [List.map_cons, List.nodup_cons] at distinct
    rcases List.mem_cons.mp inside with rfl | later
    · rw [List.filter_cons_of_pos (by simp), List.filter_eq_nil_iff.mpr]
      intro other member clash
      rw [← of_decide_eq_true clash] at distinct
      exact distinct.1 (List.mem_map_of_mem member)
    · rw [List.filter_cons_of_neg, ih distinct.2 later]
      intro clash
      rw [of_decide_eq_true clash] at distinct
      exact distinct.1 (List.mem_map_of_mem later)

def EventStore.Contiguous (store : EventStore) : Prop :=
  ∀ stream, Record.Dense (store.records stream)

namespace EventStore

theorem contiguous_empty : Contiguous .empty :=
  fun _ => rfl

omit [Payload Data] in
theorem check_eq_ok {stream : StreamId} {first index : Nat} {events : List (Event Data)} :
    Batch.check Nat.add stream first index events = .ok () ↔ ∀ position event, events[position]? = some event →
      event.stream = stream ∧ event.version = first + (index + position) := by
  induction events generalizing index with
  | nil => simp [Batch.check]
  | cons event rest ih =>
    rw [Batch.check]
    constructor
    · intro passed position other found
      split at passed
      · cases passed
      next sameStream =>
        split at passed
        · cases passed
        next sameVersion =>
          cases position with
          | zero =>
            cases found
            exact ⟨of_not_not sameStream, of_not_not sameVersion⟩
          | succ position =>
            have behind := ih.mp passed position other found
            exact ⟨behind.1, by omega⟩
    · intro fits
      obtain ⟨sameStream, sameVersion⟩ := fits 0 event rfl
      rw [if_neg (not_not_intro sameStream), if_neg (not_not_intro (by omega))]
      refine ih.mpr fun position other found => ?_
      have behind := fits (position + 1) other found
      exact ⟨behind.1, by omega⟩

omit [Payload Data] in
theorem check_eq_error {stream : StreamId} {first index : Nat} {events : List (Event Data)} {fault : Fault}
    (failed : Batch.check Nat.add stream first index events = .error fault) : ∃ cause, fault = .store cause := by
  induction events generalizing index with
  | nil => cases failed
  | cons event rest ih =>
    rw [Batch.check] at failed
    split at failed
    · cases failed
      exact ⟨_, rfl⟩
    · split at failed
      · cases failed
        exact ⟨_, rfl⟩
      · exact ih failed

omit [Payload Data] in
/-- A batch has to have the right shape, and nothing else is asked of its streams and versions. -/
theorem check_shaped {first : Event Data} {rest : List (Event Data)} :
    Batch.check Nat.add first.stream first.version 0 (first :: rest) = .ok () ↔ Event.Shaped (first :: rest) := by
  rw [check_eq_ok]
  constructor
  · intro fits event head
    cases head
    refine ⟨fun event member => ?_, fun index event found => ?_⟩
    · obtain ⟨index, found⟩ := List.getElem?_of_mem member
      exact (fits index event found).1
    · rw [(fits index event found).2, Nat.zero_add]
  · intro shaped position event found
    obtain ⟨streams, versions⟩ := shaped first rfl
    rw [Nat.zero_add]
    exact ⟨streams event (List.mem_of_getElem? found), versions position event found⟩

omit [Payload Data] in
theorem stream_eq_some {events : List (Event Data)} {stream : StreamId}
    (same : Batch.stream events = .ok (some stream)) : ∃ event ∈ events, event.stream = stream := by
  cases events with
  | nil => cases same
  | cons event rest =>
    rw [Batch.stream] at same
    cases checked : Batch.check Nat.add event.stream event.version 0 (event :: rest) with
    | error fault =>
      rw [checked] at same
      cases same
    | ok done =>
      rw [checked] at same
      cases same
      exact ⟨event, List.mem_cons_self, rfl⟩

theorem append_elsewhere {store later : EventStore} {stream : StreamId} {events : List (Event Data)}
    (stores : store.append events = .ok later)
    (elsewhere : ∀ event ∈ events, event.stream ≠ stream) : later.records stream = store.records stream := by
  unfold append at stores
  split at stores
  · cases stores
  · cases stores
    rfl
  next addressed shape =>
    obtain ⟨event, member, rfl⟩ := stream_eq_some shape
    split at stores
    · cases stores
    · split at stores
      · cases stores
      · cases stores
        rw [records_setRecords, if_neg (elsewhere event member).symm]

theorem append_misshapen (store : EventStore) {events : List (Event Data)} (misshapen : ¬ Event.Shaped events) :
    ∃ cause, store.append events = .error (.store cause) := by
  cases events with
  | nil => exact absurd (fun _ head => nomatch head) misshapen
  | cons first rest =>
    cases checked : Batch.check Nat.add first.stream first.version 0 (first :: rest) with
    | ok done => exact absurd (check_shaped.mp checked) misshapen
    | error fault =>
      obtain ⟨cause, rfl⟩ := check_eq_error checked
      refine ⟨cause, ?_⟩
      rw [append, Batch.stream, checked]
      rfl

theorem append_shaped {store : EventStore} {first : Event Data} {rest : List (Event Data)}
    (shaped : Event.Shaped (first :: rest)) :
    store.append (first :: rest) =
      match Event.toRecords (first :: rest) with
      | .error fault => .error fault
      | .ok batch =>
          match firstClaimed? (store.records first.stream) batch with
          | some claimed => .error (.conflict first.stream claimed)
          | none =>
              .ok (store.setRecords first.stream (placeAll (store.records first.stream) batch)) := by
  have passed : Batch.stream (first :: rest) = .ok (some first.stream) := by
    rw [Batch.stream, check_shaped.mpr shaped]
    rfl
  cases made : Event.toRecords (first :: rest) with
  | error fault => simp only [append, passed, made]
  | ok batch =>
    cases free : firstClaimed? (store.records first.stream) batch with
    | some claimed => simp only [append, passed, made, free]
    | none => simp only [append, passed, made, free]

theorem append_stamped {store : EventStore} {stream : StreamId} {version : Nat}
    {events : List (Event Data)} (stamped : Event.Stamped stream version events)
    (nonempty : events ≠ []) :
    store.append events =
      match Event.toRecords events with
      | .error fault => .error fault
      | .ok batch =>
          match firstClaimed? (store.records stream) batch with
          | some claimed => .error (.conflict stream claimed)
          | none => .ok (store.setRecords stream (placeAll (store.records stream) batch)) := by
  cases events with
  | nil => exact absurd rfl nonempty
  | cons event rest =>
    rw [append_shaped stamped.shaped, stamped.stream_eq List.mem_cons_self]

theorem isClaimed_dense {rows : List Record} (dense : Record.Dense rows) (version : Nat) :
    isClaimed rows version = true ↔ 1 ≤ version ∧ version ≤ rows.length := by
  have claimed : isClaimed rows version = true ↔ version ∈ rows.map Record.version := by
    simp [isClaimed]
  rw [claimed, dense, List.mem_range'_1]
  omega

theorem not_isClaimed {rows : List Record} {version : Nat} :
    isClaimed rows version = false ↔ ∀ row ∈ rows, row.version ≠ version := by
  simp [isClaimed]

theorem place_last {rows : List Record} {record : Record}
    (later : ∀ row ∈ rows, row.version ≤ record.version) : place record rows = rows ++ [record] := by
  induction rows with
  | nil => rfl
  | cons row rest ih =>
    rw [place, if_pos (later row List.mem_cons_self), ih fun other member =>
      later other (List.mem_cons_of_mem row member)]
    rfl

theorem placeAll_last {rows batch : List Record}
    (later : ∀ row ∈ rows, ∀ record ∈ batch, row.version ≤ record.version)
    (ascending : (batch.map Record.version).Pairwise (· ≤ ·)) : placeAll rows batch = rows ++ batch := by
  induction batch generalizing rows with
  | nil => simp [placeAll]
  | cons record rest ih =>
    have placed := place_last fun row member => later row member record List.mem_cons_self
    have split := List.pairwise_cons.mp ascending
    change placeAll (place record rows) rest = _
    rw [placed, ih _ split.2, List.append_assoc, List.singleton_append]
    intro row member other otherMember
    rcases List.mem_append.mp member with old | new
    · exact later row old other (List.mem_cons_of_mem record otherMember)
    · rw [List.mem_singleton.mp new]
      exact split.1 other.version (List.mem_map_of_mem otherMember)

theorem place_perm (record : Record) (rows : List Record) : (place record rows).Perm (record :: rows) := by
  induction rows with
  | nil => exact .refl _
  | cons row rest ih =>
    rw [place]
    split
    · exact (ih.cons row).trans (.swap record row rest)
    · exact .refl _

theorem placeAll_perm (rows batch : List Record) : (placeAll rows batch).Perm (rows ++ batch) := by
  induction batch generalizing rows with
  | nil =>
    rw [List.append_nil]
    exact .refl _
  | cons record rest ih =>
    have placed := (place_perm record rows).append_right rest
    exact ((ih (place record rows)).trans placed).trans List.perm_middle.symm

theorem mem_records_placeAll {store : EventStore} {stream other : StreamId} {batch : List Record} {record : Record} :
    record ∈ (store.setRecords stream (placeAll (store.records stream) batch)).records other ↔
      record ∈ store.records other ∨ stream = other ∧ record ∈ batch := by
  rw [records_setRecords]
  split
  next same =>
    rw [same, (placeAll_perm _ _).mem_iff, List.mem_append, and_iff_right rfl]
  next different =>
    exact (or_iff_left fun both => different both.1.symm).symm

theorem append_dense {store : EventStore} {stream : StreamId} {version : Nat}
    {events : List (Event Data)} (dense : Record.Dense (store.records stream))
    (stamped : Event.Stamped stream version events) (nonempty : events ≠ [])
    (bounded : version ≤ (store.records stream).length) :
    store.append events =
      match Event.toRecords events with
      | .error fault => .error fault
      | .ok batch =>
          if version = (store.records stream).length then
            .ok (store.setRecords stream (store.records stream ++ batch))
          else .error (.conflict stream (version + 1)) := by
  rw [append_stamped stamped nonempty]
  cases made : Event.toRecords events with
  | error fault => rfl
  | ok batch =>
    have versions := (Event.toRecords_versions made).trans stamped.versions
    have rangeOf (record : Record) (member : record ∈ batch) : version < record.version := by
      have inRange := List.mem_map_of_mem (f := Record.version) member
      rw [versions, List.mem_range'_1] at inRange
      omega
    dsimp only
    by_cases atEnd : version = (store.records stream).length
    · have free : firstClaimed? (store.records stream) batch = none := by
        rw [firstClaimed?, Option.map_eq_none_iff, List.find?_eq_none]
        intro record member claimed
        have old := (isClaimed_dense dense record.version).mp claimed
        have new := rangeOf record member
        omega
      have placed : placeAll (store.records stream) batch = store.records stream ++ batch := by
        apply placeAll_last
        · intro row rowMember record member
          have old := List.mem_map_of_mem (f := Record.version) rowMember
          rw [dense, List.mem_range'_1] at old
          have new := rangeOf record member
          omega
        · rw [versions]
          exact (List.pairwise_lt_range' 1 Nat.one_pos).imp Nat.le_of_lt
      rw [free, placed, if_pos atEnd]
    · cases batch with
      | nil =>
        have lengths := Event.toRecords_length made
        exact absurd (List.eq_nil_of_length_eq_zero lengths.symm) nonempty
      | cons record rest =>
        have first : record.version = version + 1 := by
          have heads := congrArg List.head? versions
          rw [← Event.toRecords_length made] at heads
          simpa [List.range'_succ] using heads
        have claimed : isClaimed (store.records stream) record.version = true := by
          rw [isClaimed_dense dense]
          omega
        have found : firstClaimed? (store.records stream) (record :: rest) = some (version + 1) := by
          rw [firstClaimed?, List.find?_cons, claimed]
          exact congrArg some first
        rw [found, if_neg atEnd]

/-- The store never speaks for the publisher. -/
theorem append_fault {store : EventStore} {events : List (Event Data)} {fault : Fault}
    (failed : store.append events = .error fault) : fault.isPublish = false := by
  by_cases shaped : Event.Shaped events
  · cases events with
    | nil => cases failed
    | cons first rest =>
      rw [append_shaped shaped] at failed
      split at failed
      next other unmade =>
        cases failed
        obtain ⟨flaw, rfl⟩ := Event.toRecords_fault unmade
        rfl
      next batch made =>
        split at failed
        · cases failed
          rfl
        · cases failed
  · obtain ⟨cause, refused⟩ := append_misshapen store shaped
    rw [refused] at failed
    cases failed
    rfl

end EventStore

theorem EventRegistry.lastVersion_dense {registry : EventRegistry Data} {rows : List Record}
    {history : List (Event Data)} (dense : Record.Dense rows)
    (decoded : registry.decodeRecords rows = .ok history) :
    AggregateRegistry.lastVersion history = rows.length := by
  have versions := (decodeRecords_versions decoded).trans dense
  have last := congrArg List.getLast? versions
  rw [List.getLast?_map, List.getLast?_range'] at last
  unfold AggregateRegistry.lastVersion
  split
  next none =>
    rw [none] at last
    split at last
    next zero => exact zero.symm
    next => cases last
  next event some =>
    rw [some] at last
    split at last
    next => cases last
    next =>
      simp only [Option.map_some, Option.some.injEq] at last
      omega

/-- A payload that comes back from its stored form. -/
def EventRegistry.Keeps (registry : EventRegistry Data) (data : Data) : Prop :=
  ∃ value, Payload.encode data = .ok value ∧ registry.decode (Payload.eventType data) value = .ok data

theorem EventRegistry.decodeRecords_toRecords {registry : EventRegistry Data} {stream : StreamId}
    {version : Nat} {events : List (Event Data)} (stamped : Event.Stamped stream version events)
    (kept : ∀ data ∈ events.map Event.data, registry.Keeps data) :
    ∃ batch, Event.toRecords events = .ok batch ∧ registry.decodeRecords batch = .ok events := by
  induction events generalizing version with
  | nil => exact ⟨[], rfl, rfl⟩
  | cons event rest ih =>
    obtain ⟨batch, made, decoded⟩ := ih stamped.2 fun data member =>
      kept data (List.mem_cons_of_mem event.data member)
    obtain ⟨value, encoded, back⟩ := kept event.data List.mem_cons_self
    have decodes : registry.decode event.eventType value = .ok event.data := by
      rw [stamped.1]
      exact back
    have first : event.toRecord =
        .ok ⟨event.stream, event.eventType, value, event.timestamp, event.version⟩ := by
      rw [Event.toRecord, encoded]
    refine ⟨_ :: batch, (Event.toRecords_cons ..).mpr ⟨_, _, first, made, rfl⟩, ?_⟩
    refine (registry.decodeRecords_cons ..).mpr ⟨event, rest, ?_, decoded, rfl⟩
    simp only [decodeRecord, decodes]

end Inventory
