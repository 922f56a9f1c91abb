import Inventory.Proofs.EventStore
import Inventory.Clock
import Mathlib.Data.List.Forall2

/-! A context over all that is recorded in it and taken from it. Its events may be taken away at any point between two
records, so neither their number nor the last of them tells the version: what has been taken and what is still there
are looked at together. The clock belongs to the process, which stamps other things in between. -/
namespace Inventory.Context
variable {Data : Type} [Payload Data]

/-- A payload is recorded at a reading of the wall clock, the events are taken away, or something else is stamped. -/
inductive Move (Data : Type) where
  | record (data : Data) (reading : Int)
  | take
  | elsewhere (reading : Int)

def Move.call? : Move Data → Option (Data × Int)
  | .record data reading => some (data, reading)
  | .take => none
  | .elsewhere _ => none

structure Session (Data : Type) where
  context : Context Data
  clock : Clock
  taken : List (List (Event Data)) := []

namespace Session

def step (session : Session Data) : Move Data → Session Data
  | .record data reading =>
      match session.clock.stamp reading with
      | (time, clock) => { session with context := session.context.record data time, clock }
  | .take =>
      match session.context.take with
      | (batch, context) => { session with context, taken := session.taken ++ [batch] }
  | .elsewhere reading => { session with clock := (session.clock.stamp reading).2 }

def run (session : Session Data) (moves : List (Move Data)) : Session Data :=
  moves.foldl step session

/-- All events so far: those that were taken, one batch after the other, and those that are still there. -/
def events (session : Session Data) : List (Event Data) :=
  session.taken.flatten ++ session.context.uncommitted

variable {session : Session Data}

theorem events_record (data : Data) (reading : Int) :
    (session.step (.record data reading)).events =
      session.events ++ [session.context.next data (max session.clock.lastCommit reading)] :=
  (List.append_assoc ..).symm

theorem events_take : (session.step .take).events = session.events := by
  simp [events, step, take]

/-- What was recorded by these calls on top of a version of a stream. -/
structure Holds (session : Session Data) (stream : StreamId) (version : Nat) (calls : List (Data × Int)) : Prop where
  stream_eq : session.context.stream = stream
  initialVersion_eq : session.context.initialVersion = version
  version_eq : session.context.version = version + calls.length
  stamped : Event.Stamped stream version session.events
  data_eq : session.events.map Event.data = calls.map Prod.fst
  /-- No time is before the reading it was stamped at. -/
  late : List.Forall₂ (· ≤ ·) (calls.map Prod.snd) (session.events.map Event.timestamp)
  ordered : (session.events.map Event.timestamp).Pairwise (· ≤ ·)
  /-- No time is after the last commit of the process. -/
  past : ∀ time ∈ session.events.map Event.timestamp, time ≤ session.clock.lastCommit

namespace Holds
variable {stream : StreamId} {version : Nat} {calls : List (Data × Int)}

theorem start (stream : StreamId) (version : Nat) (clock : Clock) :
    Holds ⟨Context.start stream version, clock, []⟩ stream version ([] : List (Data × Int)) where
  stream_eq := rfl
  initialVersion_eq := rfl
  version_eq := rfl
  stamped := trivial
  data_eq := rfl
  late := .nil
  ordered := .nil
  past := nofun

theorem length_eq (holds : session.Holds stream version calls) : session.events.length = calls.length := by
  simpa using congrArg List.length holds.data_eq

theorem le_stamp (holds : session.Holds stream version calls) (reading : Int) :
    ∀ time ∈ session.events.map Event.timestamp, time ≤ max session.clock.lastCommit reading :=
  fun time member => Int.le_trans (holds.past time member) (Int.le_max_left ..)

theorem record (holds : session.Holds stream version calls) (data : Data) (reading : Int) :
    (session.step (.record data reading)).Holds stream version (calls ++ [(data, reading)]) where
  stream_eq := holds.stream_eq
  initialVersion_eq := holds.initialVersion_eq
  version_eq := by
    rw [List.length_append, ← Nat.add_assoc, ← holds.version_eq]
    rfl
  stamped := by
    have more := holds.stamped.concat data (max session.clock.lastCommit reading)
    rw [holds.length_eq, ← holds.version_eq, ← holds.stream_eq] at more
    rw [events_record, ← holds.stream_eq]
    exact more
  data_eq := by
    rw [events_record, List.map_append, List.map_append, holds.data_eq]
    rfl
  late := by
    rw [events_record, List.map_append, List.map_append]
    exact List.rel_append holds.late (.cons (Int.le_max_right ..) .nil)
  ordered := by
    rw [events_record, List.map_append, List.pairwise_append]
    refine ⟨holds.ordered, List.pairwise_singleton .., fun time earlier other last => ?_⟩
    rw [List.mem_singleton.mp last]
    exact holds.le_stamp reading time earlier
  past := by
    rw [events_record, List.map_append, List.forall_mem_append]
    refine ⟨holds.le_stamp reading, fun time last => ?_⟩
    exact Int.le_of_eq (List.mem_singleton.mp last)

theorem take (holds : session.Holds stream version calls) : (session.step .take).Holds stream version calls := by
  have same : (session.step .take).events = session.events := events_take
  constructor
  case stream_eq => exact holds.stream_eq
  case initialVersion_eq => exact holds.initialVersion_eq
  case version_eq => exact holds.version_eq
  all_goals rw [same]
  case stamped => exact holds.stamped
  case data_eq => exact holds.data_eq
  case late => exact holds.late
  case ordered => exact holds.ordered
  case past => exact holds.past

theorem elsewhere (holds : session.Holds stream version calls) (reading : Int) :
    (session.step (.elsewhere reading)).Holds stream version calls where
  stream_eq := holds.stream_eq
  initialVersion_eq := holds.initialVersion_eq
  version_eq := holds.version_eq
  stamped := holds.stamped
  data_eq := holds.data_eq
  late := holds.late
  ordered := holds.ordered
  past := holds.le_stamp reading

theorem step (holds : session.Holds stream version calls) (move : Move Data) :
    (session.step move).Holds stream version (calls ++ move.call?.toList) := by
  cases move with
  | record data reading => exact holds.record data reading
  | take => exact (List.append_nil calls).symm ▸ holds.take
  | elsewhere reading => exact (List.append_nil calls).symm ▸ holds.elsewhere reading

theorem run (holds : session.Holds stream version calls) (moves : List (Move Data)) :
    (session.run moves).Holds stream version (calls ++ moves.filterMap Move.call?) := by
  induction moves generalizing session calls with
  | nil => exact (List.append_nil calls).symm ▸ holds
  | cons move rest ih =>
    have later := ih (holds.step move)
    rw [List.append_assoc] at later
    cases move <;> exact later

end Holds

end Session

/-- However records and takes follow each other, and whatever the wall clock shows: the events, taken or not, are those
of the records in their order, stamped for the stream with the versions that follow the first one and with times that
never run backwards. The version counts the records; what was loaded does not change. -/
theorem stamped_run (stream : StreamId) (version : Nat) (clock : Clock) (moves : List (Move Data)) :
    let session := Session.run ⟨Context.start stream version, clock, []⟩ moves
    let calls := moves.filterMap Move.call?
    session.events.map Event.data = calls.map Prod.fst ∧
    session.events.map Event.version = List.range' (version + 1) calls.length ∧
    (∀ event ∈ session.events, event.stream = stream ∧ event.eventType = Payload.eventType event.data) ∧
    (session.events.map Event.timestamp).Pairwise (· ≤ ·) ∧
    List.Forall₂ (· ≤ ·) (calls.map Prod.snd) (session.events.map Event.timestamp) ∧
    session.context.version = version + calls.length ∧
    session.context.stream = stream ∧
    session.context.initialVersion = version ∧
    session.context.hasHistory = decide (0 < version) := by
  intro session calls
  have holds : session.Holds stream version calls := (Session.Holds.start stream version clock).run moves
  refine ⟨holds.data_eq, ?_, fun event member => ⟨?_, ?_⟩, holds.ordered, holds.late, holds.version_eq,
    holds.stream_eq, holds.initialVersion_eq, ?_⟩
  · rw [holds.stamped.versions, holds.length_eq]
  · exact holds.stamped.stream_eq member
  · rw [holds.stamped.of_mem member]
    rfl
  · rw [hasHistory, holds.initialVersion_eq]

end Inventory.Context
