import Inventory.Proofs.EventStore.Order
import Inventory.Proofs.Traffic.Tally
import Mathlib.Data.Set.Finite.Basic
import Mathlib.Order.Bounds.Defs

/-! The store as a ledger. A ledger has a record under some versions of each stream, finitely many of them. It takes in
a batch of the right shape whose payloads all have a value and whose versions are all free, as a whole, and is left as
it was by any other; read, it yields what it has by ascending version. Whatever a store is called for, and in whatever
order, it answers as a ledger does. -/
namespace Inventory

/-- Records in the order of their versions, of which no two are alike. -/
def Record.StrictlyAscending (rows : List Record) : Prop :=
  rows.Pairwise fun first second => first.version < second.version

theorem Record.StrictlyAscending.eq_of_version {rows : List Record} (ascending : StrictlyAscending rows)
    {first second : Record} (firstInside : first ∈ rows) (secondInside : second ∈ rows)
    (same : first.version = second.version) : first = second := by
  have distinct : (rows.map version).Nodup := List.pairwise_map.mpr (ascending.imp Nat.ne_of_lt)
  exact List.inj_on_of_nodup_map distinct firstInside secondInside same

structure Ledger where
  entry : StreamId → Nat → Option Record
  /-- A record stands in its own stream, under its own version. -/
  filed : ∀ stream version record, entry stream version = some record →
    record.stream = stream ∧ record.version = version
  finite : ∀ stream, {version | (entry stream version).isSome = true}.Finite

def Ledger.empty : Ledger where
  entry _ _ := none
  filed _ _ _ found := nomatch found
  finite _ := by simp

variable {Data : Type}

/-- A version of the batch that has a record already. -/
def Ledger.Claims (ledger : Ledger) (events : List (Event Data)) (version : Nat) : Prop :=
  ∃ event ∈ events, event.version = version ∧ (ledger.entry event.stream version).isSome = true

inductive EventStore.Call (Data : Type) where
  | append (events : List (Event Data))
  | read (stream : StreamId)

inductive EventStore.Answer (Data : Type) where
  | appended (result : Except Fault Unit)
  | read (result : Except Fault (List (Event Data)))

/-- Each record in its own stream, by strictly ascending version. -/
structure EventStore.Tidy (store : EventStore) : Prop where
  ascending : ∀ stream, Record.StrictlyAscending (store.records stream)
  filed : ∀ stream, ∀ record ∈ store.records stream, record.stream = stream

variable [Payload Data]

/-- The payload has a value. -/
def Event.Encodes (event : Event Data) : Prop :=
  ∃ value, Payload.encode event.data = .ok value

namespace Ledger

/-- How a ledger answers a batch, and the ledger behind it. -/
structure Takes (ledger : Ledger) (events : List (Event Data)) (answer : Except Fault Unit) (later : Ledger) :
    Prop where
  ok_iff : answer = .ok () ↔
    Event.Shaped events ∧ (∀ event ∈ events, event.Encodes) ∧ ∀ version, ¬ ledger.Claims events version
  gains : answer = .ok () → ∀ stream version record, later.entry stream version = some record ↔
    ledger.entry stream version = some record ∨
      ∃ event ∈ events, event.toRecord = .ok record ∧ event.stream = stream ∧ event.version = version
  keeps : answer ≠ .ok () → later = ledger
  misshapen : ¬ Event.Shaped events → ∃ cause, answer = .error (.store cause)
  unencodable : Event.Shaped events → ∀ event ∈ events, ¬ event.Encodes →
    ∃ flaw, answer = .error (.undecodable flaw)
  conflict : Event.Shaped events → (∀ event ∈ events, event.Encodes) →
    ∀ version, IsLeast {version | ledger.Claims events version} version →
      ∀ first ∈ events.head?, answer = .error (.conflict first.stream version)

/-- How a ledger answers a reader: with the events of all the records that it has in the stream, in the order of the
versions, unless one of the records cannot be decoded; then with the fault of the first of these. -/
def Yields (ledger : Ledger) (registry : EventRegistry Data) (stream : StreamId)
    (answer : Except Fault (List (Event Data))) : Prop :=
  ∃ rows : List Record, Record.StrictlyAscending rows ∧
    (∀ record, record ∈ rows ↔ ledger.entry stream record.version = some record) ∧
    (∀ events, answer = .ok events ↔ List.Forall₂ (fun record event => registry.Reads record event) rows events) ∧
    ∀ fault, answer = .error fault ↔ ∃ before record after, rows = before ++ record :: after ∧
      (∀ earlier ∈ before, ∃ event, registry.Reads earlier event) ∧ registry.Refuses record fault

/-- How a ledger answers calls, one after the other. -/
inductive Serves (registry : EventRegistry Data) :
    Ledger → List (EventStore.Call Data) → List (EventStore.Answer Data) → Ledger → Prop where
  | nil (ledger : Ledger) : Serves registry ledger [] [] ledger
  | append {ledger next later : Ledger} {events : List (Event Data)} {answer : Except Fault Unit}
      {calls : List (EventStore.Call Data)} {answers : List (EventStore.Answer Data)}
      (takes : ledger.Takes events answer next) (others : Serves registry next calls answers later) :
      Serves registry ledger (.append events :: calls) (.appended answer :: answers) later
  | read {ledger later : Ledger} {stream : StreamId} {answer : Except Fault (List (Event Data))}
      {calls : List (EventStore.Call Data)} {answers : List (EventStore.Answer Data)}
      (yields : ledger.Yields registry stream answer) (others : Serves registry ledger calls answers later) :
      Serves registry ledger (.read stream :: calls) (.read answer :: answers) later

end Ledger

namespace Event

theorem toRecord_encodes {event : Event Data} {record : Record} (made : event.toRecord = .ok record) :
    event.Encodes := by
  unfold toRecord at made
  split at made
  · cases made
  next value encoded => exact ⟨value, encoded⟩

theorem mem_toRecords {events : List (Event Data)} {batch : List Record} (made : toRecords events = .ok batch)
    {record : Record} : record ∈ batch ↔ ∃ event ∈ events, event.toRecord = .ok record := by
  induction events generalizing batch with
  | nil =>
    cases made
    simp
  | cons event rest ih =>
    obtain ⟨first, others, firstMade, othersMade, rfl⟩ := (toRecords_cons event rest batch).mp made
    rw [List.mem_cons, ih othersMade, List.exists_mem_cons_iff, firstMade, Except.ok.injEq, eq_comm]

theorem encodes_iff {events : List (Event Data)} :
    (∀ event ∈ events, event.Encodes) ↔ ∃ batch, toRecords events = .ok batch := by
  induction events with
  | nil => exact ⟨fun _ => ⟨[], rfl⟩, fun _ _ member => nomatch member⟩
  | cons event rest ih =>
    rw [List.forall_mem_cons, ih]
    constructor
    · rintro ⟨⟨value, encoded⟩, batch, made⟩
      have first : event.toRecord =
          .ok ⟨event.stream, event.eventType, value, event.timestamp, event.version⟩ := by
        rw [toRecord, encoded]
      exact ⟨_, (toRecords_cons event rest _).mpr ⟨_, batch, first, made, rfl⟩⟩
    · rintro ⟨batch, made⟩
      obtain ⟨_, others, first, othersMade, _⟩ := (toRecords_cons event rest batch).mp made
      exact ⟨toRecord_encodes first, others, othersMade⟩

omit [Payload Data] in
theorem Shaped.versions {first : Event Data} {rest : List (Event Data)} (shaped : Shaped (first :: rest)) :
    (first :: rest).map version = List.range' first.version (first :: rest).length := by
  obtain ⟨_, versions⟩ := shaped first rfl
  refine List.ext_getElem? fun index => ?_
  rw [List.getElem?_map]
  cases found : (first :: rest)[index]? with
  | none =>
    rw [List.getElem?_eq_none (by simpa using found)]
    rfl
  | some event =>
    rw [Option.map_some, versions index event found,
      List.getElem?_range' (List.getElem?_eq_some_iff.mp found).1, Nat.one_mul]

theorem toRecords_ascending {first : Event Data} {rest : List (Event Data)} (shaped : Shaped (first :: rest))
    {batch : List Record} (made : toRecords (first :: rest) = .ok batch) :
    Record.StrictlyAscending batch := by
  rw [Record.StrictlyAscending, ← List.pairwise_map (f := Record.version), toRecords_versions made, shaped.versions]
  exact List.pairwise_lt_range' _ Nat.one_pos

end Event

namespace EventStore

/-- The store answers a call; it is left as it was by a batch that it does not take. -/
def answer (registry : EventRegistry Data) (store : EventStore) : Call Data → Answer Data × EventStore
  | .append events =>
      match store.append events with
      | .error fault => (.appended (.error fault), store)
      | .ok later => (.appended (.ok ()), later)
  | .read stream => (.read (store.history registry stream), store)

def serve (registry : EventRegistry Data) (store : EventStore) :
    List (Call Data) → List (Answer Data) × EventStore
  | [] => ([], store)
  | call :: calls =>
      let first := store.answer registry call
      let others := first.2.serve registry calls
      (first.1 :: others.1, others.2)

namespace Tidy
variable {store : EventStore}

omit [Payload Data] in
theorem empty : Tidy .empty where
  ascending _ := .nil
  filed _ _ member := nomatch member

theorem find?_eq_some (tidy : store.Tidy) {stream : StreamId} {version : Nat} {record : Record} :
    (store.records stream).find? (·.version = version) = some record ↔
      record ∈ store.records stream ∧ record.version = version := by
  constructor
  · intro found
    exact ⟨List.mem_of_find?_eq_some found, by simpa using List.find?_some found⟩
  · rintro ⟨inside, rfl⟩
    obtain ⟨other, found⟩ := Option.isSome_iff_exists.mp
      (List.find?_isSome.mpr ⟨record, inside, decide_eq_true rfl⟩ :
        ((store.records stream).find? (·.version = record.version)).isSome = true)
    have same : other.version = record.version := by simpa using List.find?_some found
    rw [found, (tidy.ascending stream).eq_of_version (List.mem_of_find?_eq_some found) inside same]

/-- What is written in the streams of a store. -/
def ledger (tidy : store.Tidy) : Ledger where
  entry stream version := (store.records stream).find? (·.version = version)
  filed stream version record found := by
    obtain ⟨inside, same⟩ := tidy.find?_eq_some.mp found
    exact ⟨tidy.filed stream record inside, same⟩
  finite stream := by
    refine (List.finite_toSet ((store.records stream).map Record.version)).subset fun version present => ?_
    obtain ⟨record, found⟩ := Option.isSome_iff_exists.mp present
    obtain ⟨inside, same⟩ := tidy.find?_eq_some.mp found
    exact List.mem_map.mpr ⟨record, inside, same⟩

theorem entry_eq_some (tidy : store.Tidy) {stream : StreamId} {version : Nat} {record : Record} :
    tidy.ledger.entry stream version = some record ↔
      record ∈ store.records stream ∧ record.version = version :=
  tidy.find?_eq_some

theorem isSome_entry (tidy : store.Tidy) {stream : StreamId} {version : Nat} :
    (tidy.ledger.entry stream version).isSome = isClaimed (store.records stream) version :=
  List.isSome_find?

end Tidy

omit [Payload Data] in
/-- The claimed version that is found first is the least, as the versions of a batch ascend. -/
theorem isLeast_firstClaimed {rows batch : List Record}
    (ascending : Record.StrictlyAscending batch) {version : Nat}
    (found : firstClaimed? rows batch = some version) :
    IsLeast {version | ∃ record ∈ batch, record.version = version ∧ isClaimed rows version = true} version := by
  obtain ⟨record, first, rfl⟩ := Option.map_eq_some_iff.mp found
  obtain ⟨claimed, before, behind, rfl, free⟩ := List.find?_eq_some_iff_append.mp first
  refine ⟨⟨record, by simp, rfl, claimed⟩, ?_⟩
  rintro _ ⟨other, member, rfl, otherClaimed⟩
  rcases List.mem_append.mp member with earlier | later
  · have open' := free other earlier
    rw [otherClaimed] at open'
    cases open'
  · rcases List.mem_cons.mp later with rfl | later
    · exact Nat.le_refl _
    · have split := List.pairwise_cons.mp (List.pairwise_append.mp ascending).2.1
      exact Nat.le_of_lt (split.1 other later)

namespace Tidy
variable {store : EventStore}

theorem placeAll (tidy : store.Tidy) {stream : StreamId} {batch : List Record}
    (ascending : Record.StrictlyAscending batch)
    (streams : ∀ record ∈ batch, record.stream = stream)
    (free : firstClaimed? (store.records stream) batch = none) :
    (store.setRecords stream (placeAll (store.records stream) batch)).Tidy := by
  have whole := placeAll_perm (store.records stream) batch
  have apart (row : Record) (present : row ∈ store.records stream) (record : Record) (new : record ∈ batch) :
      row.version ≠ record.version := by
    rw [firstClaimed?, Option.map_eq_none_iff, List.find?_eq_none] at free
    exact not_isClaimed.mp (Bool.eq_false_iff.mpr (free record new)) row present
  have distinct : (EventStore.placeAll (store.records stream) batch).Pairwise
      fun first second => first.version ≠ second.version := by
    refine (whole.pairwise_iff fun different => Ne.symm different).mpr (List.pairwise_append.mpr ⟨?_, ?_, apart⟩)
    · exact (tidy.ascending stream).imp Nat.ne_of_lt
    · exact ascending.imp Nat.ne_of_lt
  have ordered := ascending_placeAll ((tidy.ascending stream).imp Nat.le_of_lt) batch
  constructor
  · intro other
    rw [records_setRecords]
    split
    · exact (ordered.and distinct).imp fun both => Nat.lt_of_le_of_ne both.1 both.2
    · exact tidy.ascending other
  · intro other record member
    rw [records_setRecords] at member
    split at member
    next same =>
      subst same
      rcases List.mem_append.mp (whole.mem_iff.mp member) with old | new
      · exact tidy.filed other record old
      · exact streams record new
    next => exact tidy.filed other record member

theorem claims_iff (tidy : store.Tidy) {first : Event Data} {rest : List (Event Data)}
    (shaped : Event.Shaped (first :: rest)) {batch : List Record}
    (made : Event.toRecords (first :: rest) = .ok batch) {version : Nat} :
    tidy.ledger.Claims (first :: rest) version ↔
      ∃ record ∈ batch, record.version = version ∧ isClaimed (store.records first.stream) version = true := by
  have streams := (shaped first rfl).1
  constructor
  · rintro ⟨event, member, rfl, claimed⟩
    obtain ⟨value, encoded⟩ := Event.encodes_iff.mpr ⟨batch, made⟩ event member
    have inside : event.version ∈ batch.map Record.version := by
      rw [Event.toRecords_versions made]
      exact List.mem_map_of_mem member
    obtain ⟨record, recordInside, same⟩ := List.mem_map.mp inside
    rw [tidy.isSome_entry, streams event member] at claimed
    exact ⟨record, recordInside, same, claimed⟩
  · rintro ⟨record, member, rfl, claimed⟩
    obtain ⟨event, eventMember, eventMade⟩ := (Event.mem_toRecords made).mp member
    refine ⟨event, eventMember, (Event.toRecord_version eventMade).symm, ?_⟩
    rw [tidy.isSome_entry, streams event eventMember]
    exact claimed

end Tidy

end EventStore

namespace Ledger
variable {ledger : Ledger} {events : List (Event Data)} {fault : Fault}

theorem takes_refused (misshapen : ¬ Event.Shaped events → ∃ cause, fault = .store cause)
    (unencodable : Event.Shaped events → ∀ event ∈ events, ¬ event.Encodes →
      ∃ flaw, fault = .undecodable flaw)
    (conflict : Event.Shaped events → (∀ event ∈ events, event.Encodes) → ∃ version,
      IsLeast {version | ledger.Claims events version} version ∧
        ∀ first ∈ events.head?, fault = .conflict first.stream version) :
    ledger.Takes events (.error fault) ledger where
  ok_iff := by
    refine ⟨nofun, fun ⟨shaped, encodes, free⟩ => ?_⟩
    obtain ⟨version, least, _⟩ := conflict shaped encodes
    exact absurd least.1 (free version)
  gains := nofun
  keeps _ := rfl
  misshapen shape := by
    obtain ⟨cause, rfl⟩ := misshapen shape
    exact ⟨cause, rfl⟩
  unencodable shaped event member unencoded := by
    obtain ⟨flaw, rfl⟩ := unencodable shaped event member unencoded
    exact ⟨flaw, rfl⟩
  conflict shaped encodes version least first head := by
    obtain ⟨other, otherLeast, same⟩ := conflict shaped encodes
    have one : other = version := Nat.le_antisymm (otherLeast.2 least.1) (least.2 otherLeast.1)
    rw [same first head, one]

theorem takes_whole {later : Ledger} (shaped : Event.Shaped events) (encodes : ∀ event ∈ events, event.Encodes)
    (free : ∀ version, ¬ ledger.Claims events version)
    (gains : ∀ stream version record, later.entry stream version = some record ↔
      ledger.entry stream version = some record ∨
        ∃ event ∈ events, event.toRecord = .ok record ∧ event.stream = stream ∧ event.version = version) :
    ledger.Takes events (.ok ()) later where
  ok_iff := ⟨fun _ => ⟨shaped, encodes, free⟩, fun _ => rfl⟩
  gains _ := gains
  keeps refused := absurd rfl refused
  misshapen misshapen := absurd shaped misshapen
  unencodable _ event member unencoded := absurd (encodes event member) unencoded
  conflict _ _ version least := absurd least.1 (free version)

end Ledger

namespace EventStore
variable {store : EventStore} {events : List (Event Data)}

theorem Tidy.takes_error (tidy : store.Tidy) {fault : Fault} (failed : store.append events = .error fault) :
    tidy.ledger.Takes events (.error fault) tidy.ledger := by
  by_cases shaped : Event.Shaped events
  · cases events with
    | nil => cases failed
    | cons first rest =>
      rw [append_shaped shaped] at failed
      split at failed
      next other unmade =>
        cases failed
        refine Ledger.takes_refused (absurd shaped) (fun _ _ _ _ => Event.toRecords_fault unmade) ?_
        intro _ encodes
        obtain ⟨batch, made⟩ := Event.encodes_iff.mp encodes
        cases unmade.symm.trans made
      next batch made =>
        have encodes := Event.encodes_iff.mpr ⟨batch, made⟩
        split at failed
        next version found =>
          cases failed
          refine Ledger.takes_refused (absurd shaped) ?_ fun _ _ => ⟨version, ?_, ?_⟩
          · exact fun _ event member unencoded => absurd (encodes event member) unencoded
          · simpa only [tidy.claims_iff shaped made] using
              isLeast_firstClaimed (Event.toRecords_ascending shaped made) found
          · intro other head
            cases head
            rfl
        next => cases failed
  · obtain ⟨cause, refused⟩ := append_misshapen store shaped
    cases refused.symm.trans failed
    exact Ledger.takes_refused (fun _ => ⟨cause, rfl⟩) (absurd · shaped) (absurd · shaped)

theorem Tidy.takes_ok (tidy : store.Tidy) {later : EventStore} (done : store.append events = .ok later) :
    ∃ tidyLater : later.Tidy, tidy.ledger.Takes events (.ok ()) tidyLater.ledger := by
  by_cases shaped : Event.Shaped events
  · cases events with
    | nil =>
      cases done
      refine ⟨tidy, Ledger.takes_whole shaped nofun (fun version claimed => ?_) fun _ _ _ => ?_⟩
      · obtain ⟨event, member, _⟩ := claimed
        cases member
      · exact ⟨.inl, fun present => present.resolve_right fun ⟨_, member, _⟩ => nomatch member⟩
    | cons first rest =>
      rw [append_shaped shaped] at done
      split at done
      · cases done
      next batch made =>
        split at done
        · cases done
        next free =>
          cases done
          have streams (record : Record) (member : record ∈ batch) : record.stream = first.stream := by
            obtain ⟨event, eventMember, eventMade⟩ := (Event.mem_toRecords made).mp member
            rw [Event.toRecord_stream eventMade, (shaped first rfl).1 event eventMember]
          have tidyLater := tidy.placeAll (Event.toRecords_ascending shaped made) streams free
          refine ⟨tidyLater, Ledger.takes_whole shaped (Event.encodes_iff.mpr ⟨batch, made⟩) ?_ ?_⟩
          · intro version claimed
            obtain ⟨record, member, rfl, present⟩ := (tidy.claims_iff shaped made).mp claimed
            rw [firstClaimed?, Option.map_eq_none_iff, List.find?_eq_none] at free
            exact free record member present
          · intro stream version record
            rw [tidyLater.entry_eq_some, tidy.entry_eq_some, mem_records_placeAll, or_and_right]
            refine or_congr_right ⟨?_, ?_⟩
            · rintro ⟨⟨rfl, member⟩, rfl⟩
              obtain ⟨event, eventMember, eventMade⟩ := (Event.mem_toRecords made).mp member
              exact ⟨event, eventMember, eventMade, (shaped first rfl).1 event eventMember,
                (Event.toRecord_version eventMade).symm⟩
            · rintro ⟨event, eventMember, eventMade, rfl, rfl⟩
              have inside := (Event.mem_toRecords made).mpr ⟨event, eventMember, eventMade⟩
              exact ⟨⟨((shaped first rfl).1 event eventMember).symm, inside⟩, Event.toRecord_version eventMade⟩
  · obtain ⟨cause, refused⟩ := append_misshapen store shaped
    cases refused.symm.trans done

theorem Tidy.yields (tidy : store.Tidy) (registry : EventRegistry Data) (stream : StreamId) :
    tidy.ledger.Yields registry stream (store.history registry stream) := by
  refine ⟨store.records stream, tidy.ascending stream, fun record => ?_, fun events => ?_, fun fault => ?_⟩
  · rw [tidy.entry_eq_some]
    exact (and_iff_left rfl).symm
  · rw [history, EventRegistry.decodeRecords_eq_ok]
    simp only [EventRegistry.decodeRecord_eq_ok]
  · rw [history, EventRegistry.decodeRecords_eq_error_iff]
    simp only [EventRegistry.decodeRecord_eq_ok]

theorem Tidy.serves (tidy : store.Tidy) (registry : EventRegistry Data) (calls : List (Call Data)) :
    ∃ tidyLater : (store.serve registry calls).2.Tidy,
      Ledger.Serves registry tidy.ledger calls (store.serve registry calls).1 tidyLater.ledger := by
  induction calls generalizing store with
  | nil => exact ⟨tidy, .nil tidy.ledger⟩
  | cons call calls ih =>
    cases call with
    | read stream =>
      obtain ⟨tidyLater, others⟩ := ih tidy
      exact ⟨tidyLater, .read (tidy.yields registry stream) others⟩
    | append events =>
      rw [serve, EventStore.answer]
      cases done : store.append events with
      | error fault =>
        obtain ⟨tidyLater, others⟩ := ih tidy
        exact ⟨tidyLater, .append (tidy.takes_error done) others⟩
      | ok later =>
        obtain ⟨tidyNext, takes⟩ := tidy.takes_ok done
        obtain ⟨tidyLater, others⟩ := ih tidyNext
        exact ⟨tidyLater, .append takes others⟩

/-- Whatever a fresh store is called for: there is a ledger that began empty, answers all the calls as the store does,
and has at the end what is written in the streams of the store, which list it by strictly ascending version. -/
theorem refines_run (registry : EventRegistry Data) (calls : List (Call Data)) :
    let served := EventStore.empty.serve registry calls
    ∃ ledger, Ledger.Serves registry .empty calls served.1 ledger ∧ ∀ stream,
      Record.StrictlyAscending (served.2.records stream) ∧
        ∀ version record, ledger.entry stream version = some record ↔
          record ∈ served.2.records stream ∧ record.version = version := by
  intro served
  obtain ⟨tidyLater, serves⟩ := Tidy.empty.serves registry calls
  exact ⟨tidyLater.ledger, serves, fun stream =>
    ⟨tidyLater.ascending stream, fun _ _ => tidyLater.entry_eq_some⟩⟩

end EventStore

namespace Tally

/-- Marks are stored above and below each other and read; a batch that claims one of their versions is not. In another
stream an event of a type that nobody knows is stored between marks, and nothing is read there. -/
def bookings : List (EventStore.Call Mark) :=
  [.append [⟨stream, markType, ⟨⟩, 5, 2⟩, ⟨stream, markType, ⟨⟩, 6, 3⟩], .append [⟨stream, markType, ⟨⟩, 7, 1⟩],
    .append [⟨stream, markType, ⟨⟩, 8, 3⟩, ⟨stream, markType, ⟨⟩, 8, 4⟩], .read stream,
    .append [⟨elsewhere, markType, ⟨⟩, 9, 1⟩, ⟨elsewhere, ⟨"Scratch"⟩, ⟨⟩, 9, 2⟩, ⟨elsewhere, markType, ⟨⟩, 9, 3⟩],
    .read elsewhere]

theorem refines_bookings :
    ∃ ledger, Ledger.Serves registry .empty bookings
        [.appended (.ok ()), .appended (.ok ()), .appended (.error (.conflict stream 3)),
          .read (.ok [⟨stream, markType, ⟨⟩, 7, 1⟩, ⟨stream, markType, ⟨⟩, 5, 2⟩, ⟨stream, markType, ⟨⟩, 6, 3⟩]),
          .appended (.ok ()), .read (.error (.unknownEventType ⟨"Scratch"⟩))] ledger ∧
      ledger.entry stream 3 = some ⟨stream, markType, .null, 6, 3⟩ ∧
      ledger.entry elsewhere 2 = some ⟨elsewhere, ⟨"Scratch"⟩, .null, 9, 2⟩ := by
  obtain ⟨ledger, serves, rows⟩ := EventStore.refines_run registry bookings
  refine ⟨ledger, serves, ((rows stream).2 3 _).mpr ⟨?_, rfl⟩, ((rows elsewhere).2 2 _).mpr ⟨?_, rfl⟩⟩
  · exact .tail _ (.tail _ (.head _))
  · exact .tail _ (.head _)

end Tally

end Inventory
