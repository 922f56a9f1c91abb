import Inventory.Proofs.Traffic.Contiguity
import Inventory.Proofs.Traffic.Effects
import Mathlib.Data.List.Forall2

/-! How dispatches stamp their events. The time of the last commit only grows, nothing that is stored is later, and a
stamp is the time of the last commit by then, so that it is no earlier than all that was stored when it was made. The
wall clock may show anything: a reading can only push a stamp up. Readings are noted with the attempt and the version
that they are for. -/
namespace Inventory
variable {Data Handlers State Command : Type}

/-- A reading of the wall clock that an attempt took for the event with this version. -/
structure Look where
  index : Nat
  number : Nat
  version : Nat
  wall : Int

namespace Look

def isOf (look : Look) (attempt : Attempt Data Handlers State Command) : Bool :=
  look.index = attempt.index && look.number = attempt.number

theorem isOf_iff {look : Look} {attempt : Attempt Data Handlers State Command} :
    look.isOf attempt = true ↔ look.index = attempt.index ∧ look.number = attempt.number := by
  simp [isOf]

/-- The reading was taken for what has this version, and shows no later time. -/
structure Precedes (look : Look) (version : Nat) (timestamp : Int) : Prop where
  version_eq : look.version = version
  wall_le : look.wall ≤ timestamp

end Look

def Dispatch.look? (dispatch : Dispatch Data State Command) (index : Nat) (moment : Moment) : Option Look :=
  match dispatch.phase with
  | .stamping context none (_ :: _) => some ⟨index, dispatch.attempt, context.version + 1, moment.wall⟩
  | _ => none

def Traffic.look? (traffic : Traffic Data Handlers State Command) : Move Data Handlers State Command → Option Look
  | .step index moment =>
      match traffic.tasks[index]? with
      | none => none
      | some task => if task.dropped then none else task.dispatch.look? index moment
  | .start _ _ _ | .drop _ | .interlude _ => none

/-- Whoever publishes leaves the clock alone, or sets it forward. -/
def Publisher.KeepsTime (publisher : Publisher Data Handlers) : Prop :=
  ∀ deployment events, deployment.clock.lastCommit ≤ (publisher.publish deployment events).2.clock.lastCommit

def Interlude.KeepsTime (interlude : Interlude Data Handlers) : Prop :=
  ∀ deployment, deployment.clock.lastCommit ≤ (interlude.pass deployment).clock.lastCommit

/-- A move after which the last commit is no earlier. -/
def Move.KeepsTime : Move Data Handlers State Command → Prop
  | .start commandBus _ _ => commandBus.publisher.KeepsTime
  | .interlude between => between.KeepsTime
  | .step _ _ | .drop _ => True

/-- What is stored has times from zero on, no later than the last commit, that go up with the versions. -/
structure Deployment.Timely (deployment : Deployment Data Handlers) : Prop where
  started : 0 ≤ deployment.clock.lastCommit
  within : ∀ stream, ∀ record ∈ deployment.store.records stream,
    0 ≤ record.timestamp ∧ record.timestamp ≤ deployment.clock.lastCommit
  ascending : ∀ stream, (deployment.store.records stream).Pairwise fun first second =>
    first.timestamp ≤ second.timestamp

/-- Time has passed and streams have grown. -/
structure Deployment.Precedes (deployment later : Deployment Data Handlers) : Prop where
  clock_le : deployment.clock.lastCommit ≤ later.clock.lastCommit
  grows : ∀ stream, deployment.store.records stream <+: later.store.records stream

/-- Events that were stamped when the first records of their stream, up to a version, were stored. -/
structure Timed (deployment : Deployment Data Handlers) (stream : StreamId) (base : Nat)
    (events : List (Event Data)) : Prop where
  base_le : base ≤ (deployment.store.records stream).length
  within : ∀ event ∈ events, 0 ≤ event.timestamp ∧ event.timestamp ≤ deployment.clock.lastCommit
  ascending : events.Pairwise fun first second => first.timestamp ≤ second.timestamp
  behind : ∀ record ∈ (deployment.store.records stream).take base, ∀ event ∈ events,
    record.timestamp ≤ event.timestamp

section
variable {deployment later : Deployment Data Handlers} {stream : StreamId} {base : Nat} {events : List (Event Data)}

theorem Deployment.Precedes.take_eq (precedes : deployment.Precedes later)
    (base_le : base ≤ (deployment.store.records stream).length) :
    (later.store.records stream).take base = (deployment.store.records stream).take base := by
  obtain ⟨rest, whole⟩ := precedes.grows stream
  rw [← whole, List.take_append_of_le_length base_le]

theorem Timed.mono (timed : Timed deployment stream base events) (precedes : deployment.Precedes later) :
    Timed later stream base events where
  base_le := Nat.le_trans timed.base_le (precedes.grows stream).length_le
  within event member := by
    have before := timed.within event member
    exact ⟨before.1, Int.le_trans before.2 precedes.clock_le⟩
  ascending := timed.ascending
  behind := by
    rw [precedes.take_eq timed.base_le]
    exact timed.behind

theorem timed_nil (base_le : base ≤ (deployment.store.records stream).length) :
    Timed deployment stream base ([] : List (Event Data)) where
  base_le := base_le
  within _ member := nomatch member
  ascending := .nil
  behind _ _ _ member := nomatch member

theorem Timed.concat (timed : Timed deployment stream base events) (timely : deployment.Timely) {event : Event Data}
    (now : event.timestamp = deployment.clock.lastCommit) : Timed deployment stream base (events ++ [event]) where
  base_le := timed.base_le
  within other member := by
    rcases List.mem_append.mp member with old | new
    · exact timed.within other old
    · rw [List.mem_singleton.mp new, now]
      exact ⟨timely.started, Int.le_refl _⟩
  ascending := by
    refine List.pairwise_append.mpr ⟨timed.ascending, List.pairwise_singleton .., fun other member last new => ?_⟩
    rw [List.mem_singleton.mp new, now]
    exact (timed.within other member).2
  behind record stored other member := by
    rcases List.mem_append.mp member with old | new
    · exact timed.behind record stored other old
    · rw [List.mem_singleton.mp new, now]
      exact (timely.within stream record (List.mem_of_mem_take stored)).2

variable [Payload Data]

theorem Event.toRecords_marks {batch : List Record} (made : toRecords events = .ok batch) :
    batch.map (fun record => (record.version, record.timestamp)) =
      events.map fun event => (event.version, event.timestamp) := by
  refine toRecords_map (fun event record first => ?_) made
  obtain ⟨_, rfl⟩ := toRecord_eq_ok first
  rfl

theorem Deployment.Timely.extend (timely : deployment.Timely)
    (timed : Timed deployment stream (deployment.store.records stream).length events) {batch : List Record}
    (made : Event.toRecords events = .ok batch) :
    Timely { deployment with
      store := deployment.store.setRecords stream (deployment.store.records stream ++ batch) } := by
  have times : batch.map Record.timestamp = events.map Event.timestamp := by
    have marks := congrArg (List.map Prod.snd) (Event.toRecords_marks made)
    rwa [List.map_map, List.map_map] at marks
  have stamped (record : Record) (member : record ∈ batch) : ∃ event ∈ events, event.timestamp = record.timestamp := by
    have inside := List.mem_map_of_mem (f := Record.timestamp) member
    rw [times] at inside
    exact List.mem_map.mp inside
  constructor
  · exact timely.started
  · intro other record member
    rw [EventStore.records_setRecords] at member
    split at member
    next here =>
      rcases List.mem_append.mp member with old | new
      · exact timely.within stream record old
      · obtain ⟨event, inside, same⟩ := stamped record new
        rw [← same]
        exact timed.within event inside
    next elsewhere => exact timely.within other record member
  · intro other
    rw [EventStore.records_setRecords]
    split
    next here =>
      refine List.pairwise_append.mpr ⟨timely.ascending stream, ?_, fun record old next new => ?_⟩
      · rw [← List.pairwise_map (f := Record.timestamp) (R := (· ≤ ·)), times]
        exact List.pairwise_map.mpr timed.ascending
      · obtain ⟨event, inside, same⟩ := stamped next new
        rw [← same]
        apply timed.behind record _ event inside
        rw [List.take_length]
        exact old
    next elsewhere => exact timely.ascending other

end

namespace Attempt
variable {attempt : Attempt Data Handlers State Command} {deployment later : Deployment Data Handlers}
  {all more : List Look}

def readings (attempt : Attempt Data Handlers State Command) (all : List Look) : List Look :=
  all.filter (·.isOf attempt)

/-- What the readings and the times say about an attempt in a phase. -/
def Dated (attempt : Attempt Data Handlers State Command) (deployment : Deployment Data Handlers) (all : List Look) :
    Phase Data State → Prop
  | .reading | .deciding _ _ => attempt.readings all = []
  | .stamping context reading pending =>
      Timed deployment attempt.stream context.initialVersion context.uncommitted ∧ (pending = [] → reading = none) ∧
      ∃ before,
        attempt.readings all =
          before ++ (reading.map (Look.mk attempt.index attempt.number (context.version + 1))).toList ∧
        List.Forall₂ (fun look event => look.Precedes event.version event.timestamp) before context.uncommitted
  | .appending context events =>
      Timed deployment attempt.stream context.initialVersion events ∧
        List.Forall₂ (fun look event => look.Precedes event.version event.timestamp) (attempt.readings all) events
  | .publishing _ _ | .pausing _ | .finished _ => True

/-- A dispatch that has taken no reading for a later attempt. -/
structure OnTime (attempt : Attempt Data Handlers State Command) (deployment : Deployment Data Handlers)
    (all : List Look) (phase : Phase Data State) : Prop where
  number_le : ∀ look ∈ all, look.index = attempt.index → look.number ≤ attempt.number
  dated : attempt.Dated deployment all phase

theorem readings_elsewhere (elsewhere : ∀ look ∈ more, look.index ≠ attempt.index) :
    attempt.readings (all ++ more) = attempt.readings all := by
  have nothing : more.filter (·.isOf attempt) = [] := by
    rw [List.filter_eq_nil_iff]
    intro look member own
    exact elsewhere look member (Look.isOf_iff.mp own).1
  rw [Attempt.readings, List.filter_append, nothing, List.append_nil]
  rfl

theorem OnTime.mono {phase : Phase Data State} (onTime : attempt.OnTime deployment all phase)
    (precedes : deployment.Precedes later) (elsewhere : ∀ look ∈ more, look.index ≠ attempt.index) :
    attempt.OnTime later (all ++ more) phase where
  number_le look member same := by
    rcases List.mem_append.mp member with old | new
    · exact onTime.number_le look old same
    · exact absurd same (elsewhere look new)
  dated := by
    have before := onTime.dated
    cases phase with
    | reading | deciding context state => exact (readings_elsewhere elsewhere).trans before
    | stamping context reading pending =>
      rw [Dated, readings_elsewhere elsewhere]
      exact ⟨before.1.mono precedes, before.2⟩
    | appending context events =>
      rw [Dated, readings_elsewhere elsewhere]
      exact ⟨before.1.mono precedes, before.2⟩
    | publishing | pausing | finished => trivial

end Attempt

variable [Payload Data]

/-- How a step goes by the clocks: a reading shows the wall clock, and a stamp is the time of the last commit, no
earlier than its reading. -/
structure Clocked (dispatch : Dispatch Data State Command) (moment : Moment) (clock : Clock)
    (next : Dispatch Data State Command) (later : Clock) : Prop where
  runs : clock.lastCommit ≤ later.lastCommit
  looked : ∀ context first rest, dispatch.phase = .stamping context none (first :: rest) →
    next.phase = .stamping context (some moment.wall) (first :: rest)
  stamped : ∀ context reading first rest, dispatch.phase = .stamping context (some reading) (first :: rest) →
    next.phase = .stamping (context.record first later.lastCommit) none rest ∧ reading ≤ later.lastCommit
  taken : ∀ context reading, dispatch.phase = .stamping context reading [] →
    next.phase = .appending { context with uncommitted := [] } context.uncommitted

section
variable {commandBus : CommandBus Data Handlers State Command} {registry : EventRegistry Data}

theorem Dispatch.conclude_clock (dispatch : Dispatch Data State Command) (number : Nat) (moment : Moment)
    (world : Deployment Data Handlers) (result : Except Fault (Committed Data)) :
    (dispatch.conclude (commandBus.engine registry number) moment world result).2.clock = world.clock := by
  unfold conclude
  split <;> rfl

theorem Dispatch.append_clock (dispatch : Dispatch Data State Command) (number : Nat) (moment : Moment)
    (world : Deployment Data Handlers) (context : Context Data) (events : List (Event Data)) :
    (dispatch.append (commandBus.engine registry number) moment world context events).2.clock = world.clock := by
  have answer : (commandBus.engine registry number).backend.append world events = world.append events := rfl
  rw [append, answer, Deployment.append]
  cases world.store.append events with
  | error fault =>
    refine (conclude_clock ..).trans ?_
    split <;> rfl
  | ok store => rfl

theorem Dispatch.step_clock (registry : EventRegistry Data) (keeps : commandBus.publisher.KeepsTime)
    (dispatch : Dispatch Data State Command) (moment : Moment) (world : Deployment Data Handlers) :
    world.clock.lastCommit ≤
      (dispatch.step (commandBus.engine registry dispatch.attempt) moment world).2.clock.lastCommit := by
  have still {clock : Clock} (same : clock = world.clock) : world.clock.lastCommit ≤ clock.lastCommit :=
    Int.le_of_eq (congrArg Clock.lastCommit same.symm)
  cases phase : dispatch.phase with
  | reading =>
    simp only [step, phase, read]
    split
    · exact still (conclude_clock ..)
    · split
      · exact still (conclude_clock ..)
      · exact Int.le_refl _
  | deciding context state =>
    simp only [step, phase, decide]
    split
    · exact still (conclude_clock ..)
    · exact still (conclude_clock ..)
    · exact Int.le_refl _
  | stamping context reading pending =>
    simp only [step, phase]
    cases pending with
    | nil => exact Int.le_refl _
    | cons first rest =>
      cases reading with
      | none => exact Int.le_refl _
      | some reading => exact Int.le_max_left ..
  | appending context events =>
    simp only [step, phase]
    exact still (append_clock ..)
  | publishing context events =>
    simp only [step, phase, publish]
    have kept := keeps world events
    have answer : (commandBus.engine registry dispatch.attempt).backend.publish world events =
      commandBus.publisher.publish world events := rfl
    rw [answer]
    cases published : commandBus.publisher.publish world events with
    | mk result later =>
      rw [published] at kept
      refine Int.le_trans kept (Int.le_of_eq ?_)
      cases result with
      | error fault => exact congrArg Clock.lastCommit (conclude_clock ..).symm
      | ok done => exact congrArg Clock.lastCommit (conclude_clock ..).symm
  | pausing delay =>
    simp only [step, phase]
    exact Int.le_refl _
  | finished result =>
    simp only [step, phase]
    exact Int.le_refl _

theorem step_clocked (registry : EventRegistry Data) (keeps : commandBus.publisher.KeepsTime)
    (dispatch : Dispatch Data State Command) (moment : Moment) (world : Deployment Data Handlers) :
    let after := dispatch.step (commandBus.engine registry dispatch.attempt) moment world
    Clocked dispatch moment world.clock after.1 after.2.clock where
  runs := dispatch.step_clock registry keeps moment world
  looked context first rest phase := by
    simp only [Dispatch.step, phase]
    rfl
  stamped context reading first rest phase := by
    simp only [Dispatch.step, phase]
    exact ⟨rfl, Int.le_max_right ..⟩
  taken context reading phase := by
    simp only [Dispatch.step, phase]
    rfl

omit [Payload Data] in
theorem Attempt.onTime_ended {deployment : Deployment Data Handlers} {all : List Look} {index : Nat}
    {dispatch : Dispatch Data State Command}
    (number_le : ∀ look ∈ all, look.index = index → look.number ≤ dispatch.attempt) (fault : Fault) :
    (commandBus.attempt index (dispatch.ended commandBus.retry (.error fault))).OnTime deployment all
      (dispatch.ended commandBus.retry (.error fault)).phase := by
  rcases dispatch.ended_cases commandBus.retry fault with finished | ⟨_, _, pausing⟩
  · rw [finished]
    exact ⟨number_le, trivial⟩
  · rw [pausing]
    exact ⟨number_le, trivial⟩

omit [Payload Data] in
theorem Dispatch.look?_eq_none {dispatch : Dispatch Data State Command}
    (other : ∀ context first rest, dispatch.phase ≠ .stamping context none (first :: rest)) (index : Nat)
    (moment : Moment) : dispatch.look? index moment = none := by
  rw [look?]
  split
  next context first rest phase => exact absurd phase (other context first rest)
  next => rfl

/-- A dispatch on time stays so: what it reads is noted, and what it stamps is no earlier than anything stored. -/
theorem DispatchStep.onTime {deployment later : Deployment Data Handlers} {store behind : EventStore} {all : List Look}
    {index : Nat} {moment : Moment} {dispatch next : Dispatch Data State Command} {deed? : Option (Deed Data)}
    (dispatchStep : DispatchStep registry commandBus store dispatch deed? next behind)
    (clocked : Clocked dispatch moment deployment.clock next later.clock) (precedes : deployment.Precedes later)
    (timely : later.Timely)
    (loaded : ∀ context state, dispatch.phase = .deciding context state → context.uncommitted = [] ∧
      context.initialVersion ≤ (deployment.store.records (commandBus.attempt index dispatch).stream).length)
    (onTime : (commandBus.attempt index dispatch).OnTime deployment all dispatch.phase) :
    (commandBus.attempt index next).OnTime later (all ++ (dispatch.look? index moment).toList) next.phase := by
  obtain ⟨number_le, dated⟩ := onTime
  have quiet (other : ∀ context first rest, dispatch.phase ≠ .stamping context none (first :: rest)) :
      all ++ (dispatch.look? index moment).toList = all := by
    rw [Dispatch.look?_eq_none other, Option.toList_none, List.append_nil]
  cases dispatchStep with
  | unread phase | unloaded phase | undecided phase | refused phase =>
    rw [quiet (by simp [phase])]
    exact Attempt.onTime_ended number_le _
  | idle phase | unpublished _ phase | published phase | stored phase =>
    rw [quiet (by simp [phase])]
    exact ⟨number_le, trivial⟩
  | loaded phase =>
    rw [quiet (by simp [phase])]
    rw [phase] at dated
    exact ⟨number_le, dated⟩
  | @decided context state first rest phase =>
    rw [quiet (by simp [phase])]
    rw [phase] at dated
    obtain ⟨empty, base_le⟩ := loaded context state phase
    refine ⟨number_le, ?_, nofun, [], dated, ?_⟩
    · rw [empty]
      exact (timed_nil base_le).mono precedes
    · rw [empty]
      exact .nil
  | @looked context pending wall phase =>
    rw [phase] at dated
    cases pending with
    | nil => cases clocked.taken _ _ phase
    | cons first rest =>
      cases clocked.looked _ _ _ phase
      obtain ⟨timed, -, before, same, precede⟩ := dated
      rw [Option.map_none, Option.toList_none, List.append_nil] at same
      have look : dispatch.look? index moment = some ⟨index, dispatch.attempt, context.version + 1, moment.wall⟩ := by
        rw [Dispatch.look?, phase]
      rw [look]
      refine ⟨fun other member here => ?_, timed.mono precedes, nofun, before, ?_, precede⟩
      · rcases List.mem_append.mp member with old | new
        · exact number_le other old here
        · rw [List.mem_singleton.mp new]
          exact Nat.le_refl _
      · have own : (commandBus.attempt index dispatch).readings
            [⟨index, dispatch.attempt, context.version + 1, moment.wall⟩] =
              [⟨index, dispatch.attempt, context.version + 1, moment.wall⟩] := by
          exact List.filter_cons_of_pos (Look.isOf_iff.mpr ⟨rfl, rfl⟩)
        rw [Option.toList_some, Attempt.readings, List.filter_append]
        exact congrArg₂ (· ++ ·) same own
  | @stamped context reading first rest time phase =>
    rw [quiet (by simp [phase])]
    rw [phase] at dated
    obtain ⟨after, reading_le⟩ := clocked.stamped _ _ _ _ phase
    rw [after]
    obtain ⟨timed, -, before, same, precede⟩ := dated
    refine ⟨number_le, (timed.mono precedes).concat timely rfl, fun _ => rfl, _,
      same.trans (List.append_nil _).symm, ?_⟩
    exact List.rel_append precede (.cons ⟨rfl, reading_le⟩ .nil)
  | @taken context reading phase =>
    rw [quiet (by simp [phase])]
    rw [phase] at dated
    obtain ⟨timed, nothing, before, same, precede⟩ := dated
    cases nothing rfl
    rw [Option.map_none, Option.toList_none, List.append_nil] at same
    exact ⟨number_le, timed.mono precedes, same ▸ precede⟩
  | resumed delay phase =>
    rw [quiet (by simp [phase])]
    refine ⟨fun look member here => Nat.le_succ_of_le (number_le look member here), ?_⟩
    refine List.filter_eq_nil_iff.mpr fun look member => ?_
    intro own
    obtain ⟨here, number⟩ := Look.isOf_iff.mp own
    have before : look.number ≤ dispatch.attempt := number_le look member here
    have after : look.number = dispatch.attempt + 1 := number
    omega
  | rested phase =>
    rw [quiet (by simp [phase])]
    rw [phase]
    exact ⟨number_le, trivial⟩

end

end Inventory
