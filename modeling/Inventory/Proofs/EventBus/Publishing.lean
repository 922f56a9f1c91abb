import Inventory.Proofs.Audience.Roster
import Inventory.Proofs.EventStore.Ledger
import Inventory.Proofs.Household.Wire

/-! Publishing over all that is asked of a deployment. A batch is put into the log as a whole, or nothing happens at
all; whatever the loops do in between, the log has what was published in the order of the calls, and facts of households
are read back from it as the events that they were. -/
namespace Inventory
variable {Data State : Type}

/-- What a publisher meets: what is in the log already, and whether the bus takes any more. -/
def EventBus.door (bus : EventBus) : List (List UInt8) × Bool :=
  (bus.log, bus.available)

/-- The last of the requests that open or shut the bus. -/
def Request.toggle? : Request Data State → Option Bool
  | .setAvailable available => some available
  | _ => none

variable [Payload Data] {registry : EventRegistry Data}

theorem Event.toRecords_append {events more : List (Event Data)} {batch others : List Record}
    (made : toRecords events = .ok batch) (moreMade : toRecords more = .ok others) :
    toRecords (events ++ more) = .ok (batch ++ others) := by
  induction events generalizing batch with
  | nil =>
    cases made
    exact moreMade
  | cons event rest ih =>
    obtain ⟨record, records, first, restMade, rfl⟩ := (toRecords_cons event rest batch).mp made
    exact (toRecords_cons event (rest ++ more) _).mpr ⟨record, records ++ others, first, ih restMade, rfl⟩

theorem Event.encodes_iff_marshal (event : Event Data) : event.Encodes ↔ ∃ message, event.marshal = .ok message := by
  unfold Encodes marshal toRecord
  cases Payload.encode event.data with
  | error flaw => simp [Except.map]
  | ok value => simp [Except.map]

theorem Event.map_bytes {events : List (Event Data)} {batch : List Record} (made : toRecords events = .ok batch) :
    (batch.map Record.bytes).map Except.ok = events.map marshal := by
  induction events generalizing batch with
  | nil =>
    cases made
    rfl
  | cons event rest ih =>
    obtain ⟨record, records, first, others, rfl⟩ := (toRecords_cons event rest batch).mp made
    rw [List.map_cons, List.map_cons, List.map_cons, ih others, marshal, first]
    rfl

theorem ConsumerStep.door_eq {side later : ReadSide State} {consumer next : Consumer Data State}
    {doing? : Option Consumer.Doing} (consumerStep : ConsumerStep registry side consumer doing? next later) :
    later.bus.door = side.bus.door := by
  cases consumerStep <;> rfl

theorem Consumer.door_steps (registry : EventRegistry Data) (count : Nat)
    (reached : Consumer Data State × ReadSide State) :
    (steps registry count reached).2.bus.door = reached.2.bus.door := by
  induction count generalizing reached with
  | zero => rfl
  | succ count ih =>
    exact (ih (reached.1.step registry reached.2)).trans (reached.1.consumerStep_step registry reached.2).door_eq

namespace Roster

theorem door_takeTurns (registry : EventRegistry Data) (queue parked : List (Consumer Data State))
    (side : ReadSide State) : (takeTurns registry queue parked side).2.bus.door = side.bus.door := by
  induction queue generalizing parked side with
  | nil => rfl
  | cons consumer queue ih =>
    rw [takeTurns_cons, ih]
    exact Consumer.door_steps registry _ (consumer, side)

theorem door_runFirst (roster : Roster Data State) (count : Nat) (side : ReadSide State) :
    (roster.runFirst count registry side).2.bus.door = side.bus.door :=
  door_takeTurns registry _ _ side

theorem door_awaitEnd (crew rounds : Nat) (roster : Roster Data State) (side : ReadSide State) :
    (awaitEnd registry crew rounds (roster, side)).2.bus.door = side.bus.door := by
  induction rounds generalizing roster side with
  | zero => rfl
  | succ rounds ih =>
    rw [awaitEnd]
    by_cases ended : roster.crewSize crew = 0
    · rw [if_pos ended]
    · rw [if_neg ended]
      exact (ih _ _).trans (roster.door_runFirst turnsPerRound side)

theorem door_shutdown (roster : Roster Data State) (side : ReadSide State) :
    (roster.shutdown registry side).2.bus.door = side.bus.door := by
  rw [shutdown]
  induction List.range roster.crews generalizing roster side with
  | nil => rfl
  | cons crew rest ih => exact (ih _ _).trans (door_awaitEnd crew _ _ side)

end Roster

namespace Deployment

/-- The events that a request brings into the log: those of a publication that comes off. -/
def accepts (deployment : Deployment Data State) : Request Data State → List (Event Data)
  | .publish events =>
      match (deployment.publish events).1 with
      | .ok () => events
      | .error _ => []
  | _ => []

def accepted (registry : EventRegistry Data) (deployment : Deployment Data State) :
    List (Request Data State) → List (Event Data)
  | [] => []
  | request :: rest => deployment.accepts request ++ accepted registry (deployment.respond registry request) rest

theorem publish_cases (deployment : Deployment Data State) (events : List (Event Data)) :
    (∃ fault, deployment.publish events = (.error fault, deployment)) ∨
      ∃ batch, Event.toRecords events = .ok batch ∧ (deployment.publish events).1 = .ok () ∧
        (deployment.publish events).2.side.bus = deployment.side.bus.extend batch := by
  cases published : deployment.side.bus.publish events with
  | error fault => exact .inl ⟨fault, by rw [publish, published]⟩
  | ok bus =>
    obtain ⟨batch, made, rfl⟩ := EventBus.publish_eq_ok published
    refine .inr ⟨batch, made, ?_⟩
    cases events with
    | nil =>
      cases made
      rw [publish, published, EventBus.extend_nil]
      exact ⟨rfl, rfl⟩
    | cons event rest =>
      rw [publish, published]
      exact ⟨rfl, rfl⟩

theorem publish_ok_iff (deployment : Deployment Data State) (events : List (Event Data)) :
    (deployment.publish events).1 = .ok () ↔
      events = [] ∨ (deployment.side.bus.available = true ∧ ∀ event ∈ events, event.Encodes) := by
  cases events with
  | nil => exact iff_of_true rfl (.inl rfl)
  | cons event rest =>
    rw [Event.encodes_iff, publish]
    cases available : deployment.side.bus.available with
    | true =>
      rw [EventBus.publish_open available]
      cases Event.toRecords (event :: rest) <;> simp [Except.map]
    | false => simp [EventBus.publish, available]

theorem door_respond (registry : EventRegistry Data) (deployment : Deployment Data State)
    (request : Request Data State) : ∃ batch, Event.toRecords (deployment.accepts request) = .ok batch ∧
      (deployment.respond registry request).side.bus.door =
        (deployment.side.bus.log ++ batch.map Record.bytes, request.toggle?.getD deployment.side.bus.available) := by
  have quiet {door : List (List UInt8) × Bool} (same : door = deployment.side.bus.door) :
      ∃ batch, Event.toRecords ([] : List (Event Data)) = .ok batch ∧
        door = (deployment.side.bus.log ++ batch.map Record.bytes, deployment.side.bus.available) :=
    ⟨[], rfl, by rw [same, List.map_nil, List.append_nil]; rfl⟩
  cases request with
  | publish events =>
    rcases deployment.publish_cases events with ⟨fault, failed⟩ | ⟨batch, made, done, extended⟩
    · rw [accepts, respond, failed]
      exact quiet rfl
    · rw [accepts, respond, done]
      exact ⟨batch, made, by rw [EventBus.door, extended]; rfl⟩
  | setAvailable available => exact ⟨[], rfl, by rw [List.map_nil, List.append_nil]; rfl⟩
  | start handlers | count counting => exact quiet rfl
  | take =>
    obtain ⟨allowance, same⟩ := deployment.take?_getD
    exact quiet (by rw [respond, same])
  | settle | giveWay => exact quiet (deployment.roster.door_runFirst _ deployment.side)
  | shutdown => exact quiet (deployment.roster.door_shutdown deployment.side)
  | abandon => exact quiet (Roster.door_runFirst _ _ deployment.side)

theorem door_run (registry : EventRegistry Data) (deployment : Deployment Data State)
    (requests : List (Request Data State)) :
    ∃ batch, Event.toRecords (accepted registry deployment requests) = .ok batch ∧
      (requests.foldl (respond registry) deployment).side.bus.door =
        (deployment.side.bus.log ++ batch.map Record.bytes,
          (requests.filterMap Request.toggle?).getLast?.getD deployment.side.bus.available) := by
  induction requests generalizing deployment with
  | nil => exact ⟨[], rfl, by rw [List.map_nil, List.append_nil]; rfl⟩
  | cons request rest ih =>
    obtain ⟨first, firstMade, step⟩ := door_respond registry deployment request
    obtain ⟨others, othersMade, run⟩ := ih (deployment.respond registry request)
    obtain ⟨log, available⟩ := Prod.mk.inj step
    refine ⟨first ++ others, ?_, ?_⟩
    · exact Event.toRecords_append firstMade othersMade
    · rw [List.foldl_cons, run, log, available, List.map_append, List.append_assoc, List.filterMap_cons]
      cases request.toggle? with
      | none => rfl
      | some opened => rw [List.getLast?_cons]; rfl

end Deployment

namespace Household.Part
variable {Command : Type}

/-- An event with a fact for its payload, of any stream, time and version, whose type was registered for households. -/
def Reports (part : Part Data Command) (registry : EventRegistry Data) (event : Event Data) : Prop :=
  ∃ (stream : StreamId) (fact : Fact) (timestamp : Int64) (version : UInt64),
    event = .of stream (part.ofFact fact) timestamp.toInt version.toNat ∧
      ∃ kind ∈ part.kinds, registry.find? fact.eventType = some kind

theorem decode_kind (part : Part Data Command) {kind : EventKind Fact} (member : kind ∈ Fact.kinds) {fact : Fact}
    (same : kind.eventType = fact.eventType) :
    (part.kind kind).decode fact.encode = .ok (part.ofFact fact) := by
  have found : eventRegistry.find? kind.eventType = some (whole.kind kind) :=
    EventRegistry.find?_registerAll (show EventRegistry.empty.registerAll whole.kinds = (_, none) from rfl)
      (List.mem_map_of_mem member)
  obtain ⟨value, encoded, decoded⟩ := keeps_fact fact
  cases encoded
  rw [EventRegistry.decode, show Payload.eventType fact = kind.eventType from same.symm, found] at decoded
  cases plain : kind.decode fact.encode with
  | error flaw =>
    have failed : (whole.kind kind).decode fact.encode = .error flaw := congrArg (Except.map _) plain
    simp only [failed] at decoded
    cases decoded
  | ok back =>
    have passed : (whole.kind kind).decode fact.encode = .ok back := congrArg (Except.map _) plain
    simp only [passed] at decoded
    cases decoded
    exact congrArg (Except.map part.ofFact) plain

variable {part : Part Data Command}

theorem Reports.comes_back (spelled : ∀ fact, Payload.encode (part.ofFact fact) = .ok fact.encode)
    {event : Event Data} (reports : part.Reports registry event) :
    ∃ record, event.toRecord = .ok record ∧ record.Portable ∧ registry.decodeRecord record = .ok event := by
  obtain ⟨stream, fact, timestamp, version, rfl, kind, member, found⟩ := reports
  obtain ⟨form, inside, rfl⟩ := List.mem_map.mp member
  have same : (part.kind form).eventType = fact.eventType := by simpa using List.find?_some found
  have typed : Payload.eventType (part.ofFact fact) = fact.eventType := part.eventType_ofFact fact
  refine ⟨recordOf stream fact timestamp.toInt version.toNat, ?_, ?_, ?_⟩
  · simp only [Event.of, Event.toRecord, spelled, typed]
    rfl
  · exact portable_recordOf stream fact ⟨Int64.le_toInt timestamp, Int64.toInt_lt timestamp⟩
      (UInt64.toNat_lt version)
  · have decoded : registry.decode fact.eventType fact.encode = .ok (part.ofFact fact) := by
      simp only [EventRegistry.decode, found, part.decode_kind inside same]
    simp only [recordOf, EventRegistry.decodeRecord, decoded, Event.of, typed]

theorem readLog_reports (spelled : ∀ fact, Payload.encode (part.ofFact fact) = .ok fact.encode)
    {events : List (Event Data)} {batch : List Record} (made : Event.toRecords events = .ok batch)
    (reports : ∀ event ∈ events, part.Reports registry event) :
    EventBus.readLog registry (batch.map Record.bytes) = .ok events := by
  induction events generalizing batch with
  | nil =>
    cases made
    rfl
  | cons event rest ih =>
    obtain ⟨first, others⟩ := List.forall_mem_cons.mp reports
    obtain ⟨record, records, here, behind, rfl⟩ := (Event.toRecords_cons event rest batch).mp made
    obtain ⟨same, sent, portable, back⟩ := first.comes_back spelled
    rw [here] at sent
    cases sent
    rw [List.map_cons, EventBus.readLog, registry.unmarshal_bytes portable, back, ih behind others]

end Household.Part

/-- After any requests to a fresh deployment, in which loops may have read for their handlers in between: the log has
the messages of just those events whose publications came off, in the order of the calls. One more publication comes
off just if it has no events, or the bus was opened last, if it was shut at all, and all its events can be sent; one
that fails changes neither log nor positions nor metrics, nor anything else. And if what was published are facts of
households, it is read back as it was. -/
theorem Deployment.wholesale_run {Command : Type} (part : Household.Part Data Command)
    (spelled : ∀ fact, Payload.encode (part.ofFact fact) = .ok fact.encode) (registry : EventRegistry Data)
    (metrics : Option Metrics) (handlers : State) (requests : List (Request Data State)) :
    let reached := requests.foldl (respond registry) (fresh metrics handlers)
    let sent := accepted registry (fresh metrics handlers) requests
    reached.side.bus.log.map Except.ok = sent.map Event.marshal ∧
      (∀ events, ((reached.publish events).1 = .ok () ↔
          events = [] ∨ ((requests.filterMap Request.toggle?).getLast?.getD true = true ∧
            ∀ event ∈ events, ∃ message, event.marshal = .ok message)) ∧
        ((reached.publish events).1 ≠ .ok () → (reached.publish events).2 = reached)) ∧
      ((∀ event ∈ sent, part.Reports registry event) → reached.side.bus.published registry = .ok sent) := by
  intro reached sent
  obtain ⟨batch, made, door⟩ := door_run registry (fresh metrics handlers) requests
  obtain ⟨log, available⟩ := Prod.mk.inj door
  refine ⟨?_, fun events => ⟨?_, fun failed => ?_⟩, fun reports => ?_⟩
  · rw [log]
    exact Event.map_bytes made
  · rw [publish_ok_iff, available]
    simp only [Event.encodes_iff_marshal]
    rfl
  · rcases publish_cases reached events with ⟨fault, kept⟩ | ⟨_, _, done, _⟩
    · rw [kept]
    · exact absurd done failed
  · rw [EventBus.published, log]
    exact Household.Part.readLog_reports spelled made reports

namespace Household

inductive Parcel where
  | fact (fact : Fact)
  | unencodable

instance : Payload Parcel where
  eventType
    | .fact fact => fact.eventType
    | .unencodable => ⟨"Unencodable"⟩
  encode
    | .fact fact => .ok fact.encode
    | .unencodable => .error (.unencodable "no value")

def Part.parcels : Part Parcel Command where
  ofFact := .fact
  fact?
    | .fact fact => some fact
    | .unencodable => none
  command? := some
  commandName := Command.name
  eventType_ofFact _ := rfl

def parcelRegistry : EventRegistry Parcel where
  kinds := Part.parcels.kinds

def parcel (data : Parcel) (version : UInt64) : Event Parcel :=
  .of ⟨aggregateType, ⟨"h"⟩⟩ data (7 : Int64).toInt version.toNat

def founding : Event Parcel :=
  parcel (.fact (.created ⟨"h", "u", "Home"⟩)) 1

def extension : Event Parcel :=
  parcel (.fact (.roomAdded ⟨"h", "r", "Attic"⟩)) 2

/-- A batch with a payload that has no value, then an outage, then two batches that come off. -/
def shipping : List (Request Parcel Unit) :=
  [.publish [founding, parcel .unencodable 2], .setAvailable false, .publish [], .publish [founding],
    .setAvailable true,
    .publish [founding], .publish [extension], .settle]

theorem wholesale_shipping :
    (∀ fact, Payload.encode (Part.parcels.ofFact fact) = .ok fact.encode) ∧
      (shipping.foldl (Deployment.respond parcelRegistry) (.fresh (some .empty) ())).side.bus.published
        parcelRegistry = .ok [founding, extension] := by
  have spelled (fact : Fact) : Payload.encode (Part.parcels.ofFact fact) = .ok fact.encode := rfl
  have sent : Deployment.accepted parcelRegistry (.fresh (some .empty) ()) shipping = [founding, extension] := rfl
  have whole := Deployment.wholesale_run Part.parcels spelled parcelRegistry (some .empty) () shipping
  rw [sent] at whole
  refine ⟨spelled, whole.2.2 ?_⟩
  rw [List.forall_mem_cons, List.forall_mem_singleton]
  exact ⟨⟨_, .created ⟨"h", "u", "Home"⟩, 7, 1, rfl, _, .head _, rfl⟩,
    ⟨_, .roomAdded ⟨"h", "r", "Attic"⟩, 7, 2, rfl, _, .tail _ (.head _), rfl⟩⟩

end Household

end Inventory
