import Inventory.Proofs.Aggregate.Rebuilding
import Inventory.Proofs.Traffic.Effects
import Inventory.Proofs.Traffic.Assignments
import Inventory.Proofs.Traffic.Tally
import Inventory.Proofs.Traffic.Words

/-! Decisions on the whole stream. As long as nobody else writes to its stream, a dispatch decides on an aggregate to
which every row was applied, or does not decide at all: whatever keeps the aggregate from being rebuilt is its result,
and nothing is left behind. The store may hold anything, and others may go about their own streams. -/
namespace Inventory
variable {World Data Handlers State Command : Type}

/-- No event that is taken in raises a conflict. -/
def CommandBus.Calm (commandBus : CommandBus Data Handlers State Command) : Prop :=
  ∀ number state data fault, ((commandBus.rules number).apply state data).2 = some fault → fault.isConflict = false

/-- Nobody but its dispatch has stored anything in the stream of an attempt. -/
def Attempt.Undisturbed (attempt : Attempt Data Handlers State Command)
    (journal : List (Entry Data Handlers State Command)) : Prop :=
  ∀ commit ∈ Journal.commits journal, commit.stream = attempt.stream → commit.attempt.index = attempt.index

variable [Payload Data]

namespace Attempt

/-- Rebuilding its stream from these rows leads the attempt to this context and state. -/
def Rebuilds (attempt : Attempt Data Handlers State Command) (registry : EventRegistry Data) (rows : List Record)
    (context : Context Data) (state : State) : Prop :=
  Rebuilt registry (attempt.commandBus.aggregates attempt.number) (attempt.commandBus.rules attempt.number)
    attempt.stream rows
    context state

/-- What keeps the attempt from rebuilding its stream from these rows. -/
def Blocked (attempt : Attempt Data Handlers State Command) (registry : EventRegistry Data) (rows : List Record)
    (fault : Fault) : Prop :=
  Obstacle registry (attempt.commandBus.aggregates attempt.number) (attempt.commandBus.rules attempt.number)
    attempt.stream rows
    fault

/-- On what these rows lead to, of which this is the version, the command was answered with these payloads. -/
def Decides (attempt : Attempt Data Handlers State Command) (registry : EventRegistry Data) (rows : List Record)
    (version : Nat) (payloads : List Data) : Prop :=
  payloads ≠ [] ∧ ∃ state, attempt.Rebuilds registry rows (.start attempt.stream version) state ∧
    (attempt.commandBus.rules attempt.number).decide state (.start attempt.stream version) attempt.command =
      .ok payloads

/-- What the rows have led an attempt to that is in a phase. -/
def Replaying (attempt : Attempt Data Handlers State Command) (registry : EventRegistry Data) (rows : List Record) :
    Phase Data State → Prop
  | .reading => True
  | .deciding context state => attempt.Rebuilds registry rows context state
  | .stamping context _ pending =>
      context.Recorded attempt.stream ∧
        attempt.Decides registry rows context.initialVersion (context.uncommitted.map Event.data ++ pending)
  | .appending context events =>
      Event.Stamped attempt.stream context.initialVersion events ∧
        attempt.Decides registry rows context.initialVersion (events.map Event.data)
  | .publishing _ _ | .pausing _ => ∃ context state, attempt.Rebuilds registry rows context state
  | .finished result =>
      (∃ context state, attempt.Rebuilds registry rows context state) ∨
        ∃ fault, result = .error fault ∧ attempt.Blocked registry rows fault

end Attempt

/-- Events that were handed to the store were decided on what the rows lead to, and have the versions behind it. -/
def Entry.Follows (entry : Entry Data Handlers State Command) (registry : EventRegistry Data) (rows : List Record) :
    Prop :=
  ∀ version events answer, entry.deed = .appended version events answer →
    Event.Stamped entry.attempt.stream version events ∧
      entry.attempt.Decides registry rows version (events.map Event.data)

section
variable {registry : EventRegistry Data} {commandBus : CommandBus Data Handlers State Command} {index : Nat}
  {rows : List Record}
  {dispatch next : Dispatch Data State Command} {store later : EventStore} {deed? : Option (Deed Data)}

theorem Attempt.replaying_ended {context : Context Data} {state : State}
    (rebuilds : (commandBus.attempt index dispatch).Rebuilds registry rows context state) (fault : Fault) :
    (commandBus.attempt index (dispatch.ended commandBus.retry (.error fault))).Replaying registry rows
      (dispatch.ended commandBus.retry (.error fault)).phase := by
  rcases dispatch.ended_cases commandBus.retry fault with finished | ⟨_, _, pausing⟩
  · rw [finished]
    exact .inl ⟨context, state, rebuilds⟩
  · rw [pausing]
    exact ⟨context, state, rebuilds⟩

omit [Payload Data] in
theorem Dispatch.ended_of_calm {policy : Retry.Policy} {fault : Fault} (calm : fault.isConflict = false) :
    dispatch.ended policy (.error fault) = dispatch.moveTo (.finished (.error fault)) := by
  rcases dispatch.ended_cases policy fault with finished | ⟨conflict, _⟩
  · exact finished
  · rw [calm] at conflict
    cases conflict

theorem Attempt.Blocked.isConflict {attempt : Attempt Data Handlers State Command} {fault : Fault}
    (blocked : attempt.Blocked registry rows fault) (calm : attempt.commandBus.Calm) : fault.isConflict = false := by
  cases blocked with
  | undecoded split readable refused => cases refused <;> rfl
  | unmade => rfl
  | unapplied decoded known taken failed => exact calm attempt.number _ _ _ (congrArg Prod.snd failed)

theorem DispatchStep.replaying (dispatchStep : DispatchStep registry commandBus store dispatch deed? next later)
    (calm : commandBus.Calm)
    (ascending : Record.Ascending rows)
    (unwritten : dispatch.phase = .reading → store.records (commandBus.target dispatch.command) = rows)
    (replaying : (commandBus.attempt index dispatch).Replaying registry rows dispatch.phase) :
    (commandBus.attempt index next).Replaying registry rows next.phase ∧
      ∀ entry ∈ (commandBus.attempt index dispatch).entries deed?, entry.Follows registry rows := by
  have unnoted (entry : Entry Data Handlers State Command)
      (member : entry ∈ (commandBus.attempt index dispatch).entries none) : entry.Follows registry rows := by
    cases member
  have noted {deed : Deed Data} (other : ∀ version events answer, deed ≠ .appended version events answer)
      (entry : Entry Data Handlers State Command)
      (member : entry ∈ (commandBus.attempt index dispatch).entries (some deed)) : entry.Follows registry rows := by
    obtain rfl := List.mem_singleton.mp member
    intro version events answer appended
    exact absurd appended (other version events answer)
  have stopped {fault : Fault} (blocked : (commandBus.attempt index dispatch).Blocked registry rows fault) :
      (commandBus.attempt index (dispatch.ended commandBus.retry (.error fault))).Replaying registry rows
        (dispatch.ended commandBus.retry (.error fault)).phase := by
    rw [Dispatch.ended_of_calm (blocked.isConflict calm)]
    exact .inr ⟨fault, rfl, blocked⟩
  cases dispatchStep with
  | unread phase failed =>
    rw [EventStore.history, unwritten phase] at failed
    exact ⟨stopped ((obstacle_iff ascending).mpr (.inl failed)), unnoted⟩
  | unloaded phase found failed =>
    rw [EventStore.history, unwritten phase] at found
    exact ⟨stopped ((obstacle_iff ascending).mpr (.inr ⟨_, found, failed⟩)), noted fun _ _ _ same => by cases same⟩
  | loaded phase found loads =>
    rw [EventStore.history, unwritten phase] at found
    exact ⟨(rebuilt_iff ascending).mpr ⟨_, found, loads⟩, noted fun _ _ _ same => by cases same⟩
  | undecided phase failed =>
    rw [phase] at replaying
    exact ⟨Attempt.replaying_ended replaying _, unnoted⟩
  | idle phase nothing =>
    rw [phase] at replaying
    exact ⟨.inl ⟨_, _, replaying⟩, unnoted⟩
  | @decided context state first rest phase decides =>
    rw [phase] at replaying
    obtain rfl := replaying.context_eq
    exact ⟨⟨⟨rfl, trivial, rfl⟩, List.cons_ne_nil first rest, state, replaying, decides⟩, unnoted⟩
  | looked wall phase =>
    rw [phase] at replaying
    exact ⟨replaying, unnoted⟩
  | @stamped context reading first rest time phase =>
    rw [phase] at replaying
    have moved : (context.record first time).uncommitted.map Event.data ++ rest =
        context.uncommitted.map Event.data ++ first :: rest := by
      simp [Context.record, Context.next, Event.of]
    refine ⟨⟨replaying.1.record first time, ?_⟩, unnoted⟩
    rw [moved]
    exact replaying.2
  | taken phase =>
    rw [phase] at replaying
    obtain ⟨recorded, decides⟩ := replaying
    rw [List.append_nil] at decides
    exact ⟨⟨recorded.stamped, decides⟩, unnoted⟩
  | refused phase failed =>
    rw [phase] at replaying
    obtain ⟨stamped, nonempty, state, rebuilds, decides⟩ := replaying
    refine ⟨Attempt.replaying_ended rebuilds _, fun entry member => ?_⟩
    obtain rfl := List.mem_singleton.mp member
    intro version events answer appended
    cases appended
    exact ⟨stamped, nonempty, state, rebuilds, decides⟩
  | stored phase stores =>
    rw [phase] at replaying
    obtain ⟨stamped, nonempty, state, rebuilds, decides⟩ := replaying
    refine ⟨⟨_, state, rebuilds⟩, fun entry member => ?_⟩
    obtain rfl := List.mem_singleton.mp member
    intro version events answer appended
    cases appended
    exact ⟨stamped, nonempty, state, rebuilds, decides⟩
  | unpublished fault phase | published phase =>
    rw [phase] at replaying
    exact ⟨.inl replaying, noted fun _ _ _ same => by cases same⟩
  | resumed delay phase => exact ⟨trivial, unnoted⟩
  | rested phase => exact ⟨replaying, unnoted⟩

theorem DispatchStep.of_reading (dispatchStep : DispatchStep registry commandBus store dispatch deed? next later)
    (reading : dispatch.phase = .reading) :
    commandBus.attempt index next = commandBus.attempt index dispatch ∧ next.phase ≠ .reading := by
  have ended (result : Except Fault (Committed Data)) :
      commandBus.attempt index (dispatch.ended commandBus.retry result) = commandBus.attempt index dispatch ∧
        (dispatch.ended commandBus.retry result).phase ≠ .reading := by
    unfold Dispatch.ended
    split <;> exact ⟨rfl, nofun⟩
  cases dispatchStep with
  | unread | unloaded => exact ended _
  | loaded => exact ⟨rfl, nofun⟩
  | undecided phase | idle phase | decided phase | looked _ phase | stamped _ phase | taken phase | refused phase
  | stored phase | unpublished _ phase | published phase | resumed _ phase | rested phase =>
    rw [reading] at phase
    cases phase

/-- Where something is in the way, an attempt that has read has ended with it. -/
theorem Attempt.Replaying.phase_of_blocked {attempt : Attempt Data Handlers State Command} {phase : Phase Data State}
    (replaying : attempt.Replaying registry rows phase) (ascending : Record.Ascending rows) {fault : Fault}
    (blocked : attempt.Blocked registry rows fault) : phase = .reading ∨ phase = .finished (.error fault) := by
  have none {context : Context Data} {state : State}
      (rebuilds : attempt.Rebuilds registry rows context state) : False :=
    blocked.not_rebuilt ascending rebuilds
  cases phase with
  | reading => exact .inl rfl
  | deciding context state => exact (none replaying).elim
  | stamping context reading pending =>
    obtain ⟨_, _, state, rebuilds, _⟩ := replaying
    exact (none rebuilds).elim
  | appending context events =>
    obtain ⟨_, _, state, rebuilds, _⟩ := replaying
    exact (none rebuilds).elim
  | publishing | pausing =>
    obtain ⟨context, state, rebuilds⟩ := replaying
    exact (none rebuilds).elim
  | finished result =>
    rcases replaying with ⟨context, state, rebuilds⟩ | ⟨other, rfl, again⟩
    · exact (none rebuilds).elim
    · rw [blocked.unique ascending again]
      exact .inr rfl

end

omit [Payload Data] in
theorem Attempt.Undisturbed.of_append {attempt : Attempt Data Handlers State Command}
    {journal more : List (Entry Data Handlers State Command)} (undisturbed : attempt.Undisturbed (journal ++ more)) :
    attempt.Undisturbed journal := by
  intro commit member
  apply undisturbed commit
  rw [Journal.commits, List.filterMap_append]
  exact List.mem_append_left _ member

section
variable {commandBus : CommandBus Data Handlers State Command} {registry : EventRegistry Data} {number : Nat}
  {add : Nat → Nat → Nat} {world : Deployment Data Handlers} {stream : StreamId}

end

namespace Traffic
variable {registry : EventRegistry Data} {traffic : Traffic Data Handlers State Command} {start : EventStore}

/-- As long as a dispatch is undisturbed and has left nothing behind, its stream is what it was. -/
theorem Sound.rows_undisturbed (sound : traffic.Sound registry start) {attempt : Attempt Data Handlers State Command}
    (undisturbed : attempt.Undisturbed traffic.journal) (nothing : Journal.effects traffic.journal attempt.index = []) :
    traffic.rows attempt.stream = start.records attempt.stream := by
  have silent : (Journal.commits traffic.journal).filter (·.stream = attempt.stream) = [] := by
    rw [List.filter_eq_nil_iff]
    intro commit member here
    have own := Journal.entry_mem_effects member
    rw [undisturbed commit member (of_decide_eq_true here), nothing] at own
    cases own
  rw [sound.rows_eq]
  have whole : Journal.Sound registry start ([] ++ traffic.journal) := sound.journal
  exact whole.records_silent silent

/-- What a dispatch has made of its stream, and what it has handed to the store on top of it. -/
def Replaying (registry : EventRegistry Data) (start : EventStore) (attempt : Attempt Data Handlers State Command)
    (journal : List (Entry Data Handlers State Command)) (phase : Phase Data State) : Prop :=
  attempt.commandBus.Calm → attempt.Undisturbed journal →
    attempt.Replaying registry (start.records attempt.stream) phase ∧
      ∀ entry ∈ journal, entry.attempt.index = attempt.index → entry.Follows registry (start.records attempt.stream)

/-- A dispatch that cannot be decided for this fault: it has left nothing behind, its stream is what it was, and with
its next step at the latest the fault is its result. -/
structure Stopped (registry : EventRegistry Data) (traffic : Traffic Data Handlers State Command) (index : Nat)
    (task : Task Data Handlers State Command) (rows : List Record) (fault : Fault) : Prop where
  nothing : Journal.effects traffic.journal index = []
  rows_eq : traffic.rows (task.attempt index).stream = rows
  result : task.dispatch.phase = .reading ∨ task.dispatch.result? = some (.error fault)
  next : ∀ moment, task.dropped = false → ∃ later,
    (traffic.step registry (.step index moment) Version.add).tasks[index]? = some later ∧
      later.dispatch.result? = some (.error fault)

theorem Sound.stopped (sound : traffic.Sound registry start) (effected : traffic.Effected) {index : Nat}
    {task : Task Data Handlers State Command} (found : traffic.tasks[index]? = some task)
    (ascending : Record.Ascending (start.records (task.attempt index).stream))
    (undisturbed : (task.attempt index).Undisturbed traffic.journal) (calm : task.commandBus.Calm)
    (replaying : (task.attempt index).Replaying registry (start.records (task.attempt index).stream)
      task.dispatch.phase)
    (follows : ∀ entry ∈ traffic.journal, entry.attempt.index = index →
      entry.Follows registry (start.records (task.attempt index).stream)) {fault : Fault}
    (blocked : (task.attempt index).Blocked registry (start.records (task.attempt index).stream) fault) :
    traffic.Stopped registry index task (start.records (task.attempt index).stream) fault := by
  have phase := replaying.phase_of_blocked ascending blocked
  have left := effected.each index task found
  have nothing : Journal.effects traffic.journal index = [] := by
    rcases phase with reading | finished
    · rw [reading] at left
      exact left
    · rw [finished] at left
      refine left.resolve_right ?_
      -- what an attempt stores it has decided on, for which it had to rebuild its stream
      rintro ⟨base, events, answer, both⟩
      have member : ⟨task.attempt index, .appended base events (.ok ())⟩ ∈ Journal.effects traffic.journal index := by
        rw [show Journal.effects traffic.journal index = _ from both]
        exact List.mem_cons_self
      obtain ⟨_, _, state, rebuilds, _⟩ := follows _ (List.mem_filter.mp member).1 rfl base events (.ok ()) rfl
      exact blocked.not_rebuilt ascending rebuilds
  have rows := sound.rows_undisturbed undisturbed nothing
  refine ⟨nothing, rows, ?_, fun moment live => ?_⟩
  · exact phase.imp_right fun finished => by rw [Dispatch.result?, finished]
  · have dispatchStep := dispatchStep_step task.commandBus registry task.dispatch moment traffic.world
    have inside := (List.getElem?_eq_some_iff.mp found).1
    have inWords : traffic.InWords (.step index moment) := by
      rw [InWords, found]
      dsimp only
      rcases phase with reading | finished
      · rw [reading]
        trivial
      · rw [finished]
        trivial
    rw [sound.step_words inWords, step_of_live found live]
    refine ⟨_, List.getElem?_set_self inside, ?_⟩
    rcases phase with reading | finished
    · have after := (dispatchStep.replaying calm ascending (fun _ => rows) replaying).1
      obtain ⟨same, read⟩ := dispatchStep.of_reading reading
      rw [same] at after
      have ended := (after.phase_of_blocked ascending blocked).resolve_left read
      rw [Dispatch.result?, ended]
    · rw [Dispatch.step, finished, Dispatch.result?, finished]

end Traffic

namespace Tally

/-- Other writers have left marks out of order, with a gap and with one version twice, and in another stream a record
whose type nobody knows. -/
def untidy : List Record :=
  [⟨stream, markType, .null, 0, 5⟩, ⟨elsewhere, markType, .null, 0, 1⟩, ⟨stream, markType, .null, 0, 2⟩,
    ⟨elsewhere, ⟨"Scratch"⟩, .null, 0, 4⟩, ⟨stream, markType, .null, 0, 5⟩]

end Tally

end Inventory
