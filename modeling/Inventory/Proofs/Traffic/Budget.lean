import Inventory.Proofs.Traffic.Effects
import Inventory.Proofs.Traffic.Assignments
import Inventory.Proofs.Traffic.Order
import Inventory.Proofs.Traffic.Tally

/-! How many attempts are enough. A conflict shows a batch of another dispatch that was taken in since the read, and a
dispatch commits once at most. So every attempt after the first is paid for by one more batch of the others, and
who may try as often as there are dispatches for its stream never runs out of attempts. -/
namespace Inventory
variable {Data Handlers State Command : Type}

/-- The rules never raise what only the store reports. -/
structure CommandBus.Undisputed (commandBus : CommandBus Data Handlers State Command) : Prop where
  apply : ∀ number state data fault,
    ((commandBus.rules number).apply state data).2 = some fault → fault.isConflict = false
  decide : ∀ number state context command fault,
    (commandBus.rules number).decide state context command = .error fault → fault.isConflict = false

def Move.isFor (stream : StreamId) : Move Data Handlers State Command → Bool
  | .start commandBus _ command => commandBus.target command = stream
  | .step _ _ | .drop _ | .interlude _ => false

namespace Journal

/-- The dispatches whose batches a stream has taken in. -/
def committers (journal : List (Entry Data Handlers State Command)) (stream : StreamId) : List Nat :=
  ((commits journal).filter (·.stream = stream)).map (·.attempt.index)

variable {journal more : List (Entry Data Handlers State Command)} {stream : StreamId}

theorem committers_append (journal more : List (Entry Data Handlers State Command)) (stream : StreamId) :
    committers (journal ++ more) stream = committers journal stream ++ committers more stream := by
  simp [committers, commits]

theorem mem_committers {index : Nat} :
    index ∈ committers journal stream ↔
      ∃ commit ∈ commits journal, commit.stream = stream ∧ commit.attempt.index = index := by
  simp [committers, and_assoc]

theorem not_mem_committers {index : Nat} (nothing : effects journal index = []) :
    index ∉ committers journal stream := by
  intro member
  obtain ⟨commit, found, _, rfl⟩ := mem_committers.mp member
  have effect := entry_mem_effects found
  rw [nothing] at effect
  cases effect

end Journal

open Journal

namespace Attempt
variable {attempt : Attempt Data Handlers State Command}
  {journal more : List (Entry Data Handlers State Command)}

/-- At some time there was a batch of another dispatch for every attempt but this one. -/
def Paid (attempt : Attempt Data Handlers State Command)
    (journal : List (Entry Data Handlers State Command)) : Prop :=
  ∃ before after, journal = before ++ after ∧ attempt.index ∉ committers before attempt.stream ∧
    attempt.number ≤ (committers before attempt.stream).length + 1

theorem Paid.concat (paid : attempt.Paid journal) (more : List (Entry Data Handlers State Command)) :
    attempt.Paid (journal ++ more) := by
  obtain ⟨before, after, rfl, absent, enough⟩ := paid
  exact ⟨before, after ++ more, List.append_assoc .., absent, enough⟩

variable [Payload Data]

/-- There was one for every attempt but this one when the stream was read, which ended at this version then. -/
def PaidAt (attempt : Attempt Data Handlers State Command) (start : EventStore)
    (journal : List (Entry Data Handlers State Command)) (version : Nat) : Prop :=
  ∃ before after, journal = before ++ after ∧
    attempt.number ≤ (committers before attempt.stream).length + 1 ∧
      ∀ row ∈ (store start before).records attempt.stream, row.version ≤ version

/-- What the batches of the others are to a dispatch in a phase. -/
def Racing (attempt : Attempt Data Handlers State Command) (start : EventStore)
    (journal : List (Entry Data Handlers State Command)) : Phase Data State → Prop
  | .reading => attempt.number ≤ (committers journal attempt.stream).length + 1
  | .deciding context _ | .stamping context _ _ | .appending context _ =>
      attempt.PaidAt start journal context.initialVersion
  | .pausing _ => attempt.number ≤ (committers journal attempt.stream).length
  | .publishing _ _ => attempt.Paid journal
  | .finished result => attempt.Paid journal ∧ ∀ fault, result = .error fault → fault.isConflict = false

variable {start : EventStore}

theorem PaidAt.concat {version : Nat} (paid : attempt.PaidAt start journal version)
    (more : List (Entry Data Handlers State Command)) : attempt.PaidAt start (journal ++ more) version := by
  obtain ⟨before, after, rfl, enough, below⟩ := paid
  exact ⟨before, after ++ more, List.append_assoc .., enough, below⟩

theorem PaidAt.paid {version : Nat} (paid : attempt.PaidAt start journal version)
    (absent : attempt.index ∉ committers journal attempt.stream) : attempt.Paid journal := by
  obtain ⟨before, after, rfl, enough, _⟩ := paid
  rw [committers_append, List.mem_append, not_or] at absent
  exact ⟨before, after, rfl, absent.1, enough⟩

theorem Racing.paid {phase : Phase Data State} (racing : attempt.Racing start journal phase)
    (effected : attempt.Effected journal phase) : attempt.Paid journal := by
  cases phase with
  | reading => exact ⟨journal, [], (List.append_nil _).symm, not_mem_committers effected, racing⟩
  | deciding | stamping | appending => exact PaidAt.paid racing (not_mem_committers effected)
  | publishing => exact racing
  | pausing =>
    exact ⟨journal, [], (List.append_nil _).symm, not_mem_committers effected, Nat.le_succ_of_le racing⟩
  | finished => exact racing.1

theorem Racing.concat {phase : Phase Data State} (racing : attempt.Racing start journal phase)
    (more : List (Entry Data Handlers State Command)) : attempt.Racing start (journal ++ more) phase := by
  have grown : (committers journal attempt.stream).length ≤
      (committers (journal ++ more) attempt.stream).length := by
    rw [committers_append, List.length_append]
    exact Nat.le_add_right ..
  cases phase with
  | reading => exact Nat.le_trans racing (Nat.succ_le_succ grown)
  | deciding | stamping | appending => exact PaidAt.concat racing more
  | publishing => exact Paid.concat racing more
  | pausing => exact Nat.le_trans racing grown
  | finished => exact ⟨racing.1.concat more, racing.2⟩

theorem racing_ended {commandBus : CommandBus Data Handlers State Command} {index : Nat}
    {dispatch : Dispatch Data State Command} {fault : Fault} (other : fault.isConflict = false)
    (paid : (commandBus.attempt index dispatch).Paid journal) :
    (commandBus.attempt index (dispatch.ended commandBus.retry (.error fault))).Racing start journal
      (dispatch.ended commandBus.retry (.error fault)).phase := by
  rcases dispatch.ended_cases commandBus.retry fault with finished | ⟨conflict, _⟩
  · rw [finished]
    refine ⟨paid, fun found same => ?_⟩
    cases same
    exact other
  · rw [other] at conflict
    cases conflict

end Attempt

theorem Dispatch.ended_conflict {dispatch : Dispatch Data State Command} {policy : Retry.Policy} {fault : Fault}
    (conflict : fault.isConflict = true) (budget : dispatch.attempt < policy.maxAttempts) :
    dispatch.ended policy (.error fault) = dispatch.moveTo (.pausing dispatch.delay) := by
  have again : policy.outcome? Fault.isTransient dispatch.attempt
      (.error fault : Except Fault (Committed Data)) = none := by
    simp [Retry.Policy.outcome?, Fault.isTransient, conflict, Nat.not_le.mpr budget]
  rw [ended, again]

variable [Payload Data]

namespace Journal
variable {registry : EventRegistry Data} {start : EventStore}
  {journal : List (Entry Data Handlers State Command)}

/-- What is in a stream now and was not there before is of a batch that came in between. -/
theorem Sound.exists_committer {before after : List (Entry Data Handlers State Command)}
    (sound : Sound registry start (before ++ after)) {stream : StreamId} {row : Record}
    (here : row ∈ (store start (before ++ after)).records stream)
    (absent : row ∉ (store start before).records stream) : committers after stream ≠ [] := by
  intro none
  rw [sound.records_silent (List.map_eq_nil_iff.mp none)] at here
  exact absent here

/-- A conflict pays for one more attempt. -/
theorem paid_of_conflict {attempt : Attempt Data Handlers State Command} (sound : Sound registry start journal)
    {version : Nat} {events : List (Event Data)} (stamped : Event.Stamped attempt.stream version events)
    (nonempty : events ≠ []) (paid : attempt.PaidAt start journal version) {fault : Fault}
    (failed : (store start journal).append events = .error fault) (conflict : fault.isConflict = true) :
    attempt.number ≤ (committers journal attempt.stream).length := by
  obtain ⟨before, after, rfl, enough, below⟩ := paid
  obtain ⟨row, here, above⟩ : ∃ row ∈ (store start (before ++ after)).records attempt.stream,
      version < row.version := by
    rw [EventStore.append_stamped stamped nonempty] at failed
    split at failed
    next other unmade =>
      cases failed
      obtain ⟨flaw, rfl⟩ := Event.toRecords_fault unmade
      cases conflict
    next batch made =>
      split at failed
      next claimed first =>
        obtain ⟨record, found, rfl⟩ := Option.map_eq_some_iff.mp first
        have inside := List.mem_map_of_mem (f := Record.version) (List.mem_of_find?_eq_some found)
        rw [(Event.toRecords_versions made).trans stamped.versions, List.mem_range'_1] at inside
        have taken := List.find?_some found
        simp only [EventStore.isClaimed, List.any_eq_true, decide_eq_true_eq] at taken
        obtain ⟨row, here, same⟩ := taken
        exact ⟨row, here, by omega⟩
      next => cases failed
  have others := sound.exists_committer here fun old => Nat.not_lt.mpr (below row old) above
  have positive := List.length_pos_iff.mpr others
  rw [committers_append, List.length_append]
  omega

end Journal

theorem DispatchStep.racing {registry : EventRegistry Data} {start store later : EventStore}
    {commandBus : CommandBus Data Handlers State Command} {index racers : Nat}
    {journal : List (Entry Data Handlers State Command)}
    {dispatch next : Dispatch Data State Command} {deed? : Option (Deed Data)}
    (dispatchStep : DispatchStep registry commandBus store dispatch deed? next later)
    (store_eq : store = Journal.store start journal) (ordered : start.Ordered)
    (sound : Journal.Sound registry start journal)
    (fits : (commandBus.attempt index dispatch).Fits registry start journal dispatch.phase)
    (effected : (commandBus.attempt index dispatch).Effected journal dispatch.phase)
    (undisputed : commandBus.Undisputed) (patient : racers ≤ commandBus.retry.maxAttempts)
    (room : index ∉ committers journal (commandBus.attempt index dispatch).stream →
      (committers journal (commandBus.attempt index dispatch).stream).length < racers)
    (racing : (commandBus.attempt index dispatch).Racing start journal dispatch.phase) :
    (commandBus.attempt index next).Racing start (journal ++ (commandBus.attempt index dispatch).entries deed?)
      next.phase := by
  subst store_eq
  have paid := (racing.paid effected).concat ((commandBus.attempt index dispatch).entries deed?)
  cases dispatchStep with
  | unread phase failed =>
    exact Attempt.racing_ended (EventRegistry.decodeRecords_fault failed).1 paid
  | unloaded phase found failed =>
    refine Attempt.racing_ended ?_ paid
    rcases AggregateRegistry.load_eq_error failed with ⟨_, rfl⟩ | ⟨state, data, raised⟩
    · rfl
    · exact undisputed.apply _ state data _ raised
  | @loaded history context state phase found loads =>
    rw [phase] at racing
    obtain ⟨rfl, _⟩ := AggregateRegistry.load_eq_ok.mp loads
    refine ⟨journal, _, rfl, racing, fun row member => ?_⟩
    change row.version ≤ AggregateRegistry.lastVersion history
    rw [EventRegistry.lastVersion_eq_top found]
    exact (sound.ordered ordered _).le_top member
  | undecided phase failed => exact Attempt.racing_ended (undisputed.decide _ _ _ _ _ failed) paid
  | idle phase nothing => exact ⟨paid, fun fault same => nomatch same⟩
  | decided phase decides =>
    rw [phase] at racing
    rw [Attempt.entries_none, List.append_nil]
    exact racing
  | looked wall phase =>
    rw [phase] at racing
    rw [Attempt.entries_none, List.append_nil]
    exact racing
  | stamped time phase =>
    rw [phase] at racing
    rw [Attempt.entries_none, List.append_nil]
    exact racing
  | taken phase =>
    rw [phase] at racing
    rw [Attempt.entries_none, List.append_nil]
    exact racing
  | @refused context events fault phase failed =>
    rw [phase] at racing fits effected
    obtain ⟨stamped, _, nonempty, _⟩ := fits
    by_cases conflict : fault.isConflict = true
    · have enough := paid_of_conflict sound stamped (fun empty => nonempty (by rw [empty]; rfl)) racing
        failed conflict
      have within := room (not_mem_committers effected)
      rw [Dispatch.ended_conflict conflict (Nat.lt_of_le_of_lt enough (Nat.lt_of_lt_of_le within patient))]
      change dispatch.attempt ≤ (committers (journal ++ _) (commandBus.attempt index dispatch).stream).length
      rw [committers_append, List.length_append]
      exact Nat.le_trans enough (Nat.le_add_right ..)
    · exact Attempt.racing_ended (Bool.eq_false_iff.mpr conflict) paid
  | stored phase stores => exact paid
  | unpublished fault phase =>
    refine ⟨paid, fun found same => ?_⟩
    cases same
    cases fault <;> rfl
  | published phase => exact ⟨paid, fun fault same => nomatch same⟩
  | resumed delay phase =>
    rw [phase] at racing
    rw [Attempt.entries_none, List.append_nil]
    exact Nat.succ_le_succ racing
  | rested phase =>
    rw [Attempt.entries_none, List.append_nil]
    exact racing

namespace Traffic
variable {registry : EventRegistry Data} {start : EventStore} {stream : StreamId}
  {traffic : Traffic Data Handlers State Command}

/-- The dispatches for a stream: each has made no more attempts than are paid for. -/
structure Race (registry : EventRegistry Data) (start : EventStore) (stream : StreamId)
    (traffic : Traffic Data Handlers State Command) : Prop where
  sound : traffic.Sound registry start
  signed : traffic.Signed
  effected : traffic.Effected
  racing : traffic.Each fun attempt journal phase =>
    attempt.stream = stream → attempt.Racing start journal phase

theorem race_opening (registry : EventRegistry Data) (stream : StreamId)
    (deployment : Deployment Data Handlers) :
    Race registry deployment.store stream (opening deployment : Traffic Data Handlers State Command) where
  sound := sound_opening registry deployment
  signed _ member := nomatch member
  effected := effected_opening deployment
  racing _ _ found := nomatch found

omit [Payload Data] in
theorem Signed.length_committers_lt (signed : traffic.Signed) (effected : traffic.Effected)
    {before after : List (Entry Data Handlers State Command)} (split : traffic.journal = before ++ after)
    {index : Nat} {task : Task Data Handlers State Command} (found : traffic.tasks[index]? = some task)
    (here : task.assignment.stream = stream) (absent : index ∉ committers before stream) :
    (committers before stream).length < traffic.assignments.countP fun assignment => assignment.stream = stream := by
  have distinct : (committers before stream).Nodup := by
    have whole := effected.distinct_commits
    rw [split, commits, List.filterMap_append, List.map_append] at whole
    exact (List.nodup_append.mp whole).1.sublist (List.filter_sublist.map _)
  apply length_le_countP (List.nodup_cons.mpr ⟨absent, distinct⟩)
  intro place member
  rcases List.mem_cons.mp member with rfl | committed
  · refine ⟨task.assignment, ?_, decide_eq_true here⟩
    rw [assignments, List.getElem?_map, found]
    rfl
  · obtain ⟨commit, known, same, rfl⟩ := mem_committers.mp committed
    obtain ⟨earlier, later, rfl⟩ := mem_commits known
    refine ⟨commit.attempt.assignment, ?_, decide_eq_true same⟩
    exact signed commit.entry (by rw [split]; simp)

theorem Race.step {racers : Nat} (race : traffic.Race registry start stream) (ordered : start.Ordered)
    (few : (traffic.assignments.countP fun assignment => assignment.stream = stream) ≤ racers)
    (able : ∀ assignment ∈ traffic.assignments, assignment.stream = stream →
      racers ≤ assignment.commandBus.retry.maxAttempts ∧ assignment.commandBus.Undisputed)
    (move : Move Data Handlers State Command) : (traffic.step registry move).Race registry start stream := by
  refine ⟨race.sound.step move, race.signed.step move, race.effected.step move, ?_⟩
  apply race.racing.step race.sound.known
  · intro attempt journal first elsewhere here
    change attempt.number ≤ _
    rw [first]
    exact Nat.le_add_left ..
  · intro attempt journal more phase before elsewhere here
    exact (before here).concat more
  · intro index task moment found engine next here
    have dispatchStep := dispatchStep_step task.commandBus registry task.dispatch moment traffic.world
    have same : task.assignment.stream = stream := by
      rw [← here]
      exact congrArg task.commandBus.target dispatchStep.command_eq.symm
    obtain ⟨patient, undisputed⟩ := able task.assignment
      (List.mem_map_of_mem (List.mem_of_getElem? found)) same
    refine dispatchStep.racing race.sound.store_eq ordered race.sound.journal (race.sound.fits index task found)
      (race.effected.each index task found) undisputed patient (fun absent => ?_)
      (race.racing index task found same)
    change (committers traffic.journal task.assignment.stream).length < racers
    change index ∉ committers traffic.journal task.assignment.stream at absent
    rw [same] at absent ⊢
    exact Nat.lt_of_lt_of_le (race.signed.length_committers_lt race.effected (List.append_nil _).symm found
      same absent) few

theorem Race.run {racers : Nat} (race : traffic.Race registry start stream) (ordered : start.Ordered)
    (moves : List (Move Data Handlers State Command))
    (few : ((traffic.assignments ++ moves.filterMap Move.assignment?).countP fun assignment =>
      assignment.stream = stream) ≤ racers)
    (able : ∀ assignment ∈ traffic.assignments ++ moves.filterMap Move.assignment?, assignment.stream = stream →
      racers ≤ assignment.commandBus.retry.maxAttempts ∧ assignment.commandBus.Undisputed) :
    (traffic.run registry moves).Race registry start stream := by
  induction moves generalizing traffic with
  | nil => exact race
  | cons move rest ih =>
    have grown : (traffic.step registry move).assignments ++ rest.filterMap Move.assignment? =
        traffic.assignments ++ (move :: rest).filterMap Move.assignment? := by
      rw [assignments_step, List.append_assoc]
      cases move <;> rfl
    have before := few
    rw [List.countP_append] at before
    have next := race.step ordered (Nat.le_trans (Nat.le_add_right ..) before)
      (fun assignment member => able assignment (List.mem_append_left _ member)) move
    exact ih next (grown.symm ▸ few) (grown.symm ▸ able)

/-- A budget of as many attempts as there are dispatches for a stream always suffices: whatever the stream began with
and whatever order the steps are taken in, none of them ends with a conflict, and none makes more attempts. -/
theorem undefeated_run (registry : EventRegistry Data) (deployment : Deployment Data Handlers)
    (records : List Record) (moves : List (Move Data Handlers State Command)) (stream : StreamId)
    (racers : Nat) (few : moves.countP (Move.isFor stream) ≤ racers)
    (able : ∀ commandBus moment command, .start commandBus moment command ∈ moves → commandBus.target command = stream →
      racers ≤ commandBus.retry.maxAttempts ∧ commandBus.Undisputed) :
    ∀ task ∈ ((opening (deployment.seeded records)).run registry moves).tasks,
      task.commandBus.target task.dispatch.command = stream →
        task.dispatch.attempt ≤ racers ∧
          ∀ fault, task.dispatch.result? = some (.error fault) → fault.isConflict = false := by
  intro task member here
  have started : (opening (deployment.seeded records) : Traffic Data Handlers State Command).assignments ++
      moves.filterMap Move.assignment? = moves.filterMap Move.assignment? := rfl
  have sent : ((moves.filterMap Move.assignment?).countP fun assignment => assignment.stream = stream) ≤ racers := by
    have same : (fun move : Move Data Handlers State Command =>
        (move.assignment?.map fun assignment => decide (assignment.stream = stream)).getD false) =
      Move.isFor stream := by
      funext move
      cases move <;> rfl
    rw [List.countP_filterMap, same]
    exact few
  have race := (race_opening registry stream (deployment.seeded records)).run
    (EventStore.ordered_seeded records) moves sent (by
      intro assignment known same
      obtain ⟨move, inside, found⟩ := List.mem_filterMap.mp known
      cases move with
      | start commandBus moment command =>
        cases found
        exact able commandBus moment command inside same
      | step | drop | interlude => cases found)
  obtain ⟨index, found⟩ := List.getElem?_of_mem member
  have racing := race.racing index task found here
  constructor
  · obtain ⟨before, after, split, absent, enough⟩ := racing.paid (race.effected.each index task found)
    change (task.attempt index).stream = stream at here
    rw [here] at absent enough
    have others := race.signed.length_committers_lt race.effected split found here absent
    rw [assignments_run, started] at others
    exact Nat.le_trans enough (Nat.le_trans others sent)
  · intro fault ended
    unfold Dispatch.result? at ended
    split at ended
    next result finished =>
      cases ended
      rw [finished] at racing
      exact racing.2 fault rfl
    next => cases ended

end Traffic

namespace Tally

theorem undisputed_commandBus (answer : Except Fault Unit) : (commandBus answer).Undisputed where
  apply _ _ _ _ raised := nomatch raised
  decide _ _ _ _ _ raised := nomatch raised

/-- The loser of a race for a stream that others began, with a gap, wins with its second attempt. -/
theorem undefeated_race :
    let traffic := (Traffic.opening ((Deployment.fresh none ()).seeded
      [⟨stream, markType, .null, 0, 5⟩, ⟨stream, markType, .null, 0, 2⟩])).run registry race
    (traffic.rows stream).map Record.version = [2, 5, 6, 7, 8] ∧ race.countP (Move.isFor stream) = 2 ∧
    ∃ task, traffic.tasks[0]? = some task ∧ task.dispatch.attempt = 2 ∧
      ∀ fault, task.dispatch.result? = some (.error fault) → fault.isConflict = false := by
  intro traffic
  have able (started : CommandBus Mark Unit Nat Nat) (moment : Moment) (marks : Nat)
      (member : .start started moment marks ∈ race) (_ : started.target marks = stream) :
      2 ≤ started.retry.maxAttempts ∧ started.Undisputed := by
    rw [commandBus_of_race member]
    exact ⟨by decide, undisputed_commandBus (.ok ())⟩
  have whole := Traffic.undefeated_run registry (Deployment.fresh none ())
    [⟨stream, markType, .null, 0, 5⟩, ⟨stream, markType, .null, 0, 2⟩] race stream 2 (by decide) able
  exact ⟨rfl, rfl, _, rfl, rfl, (whole _ List.mem_cons_self rfl).2⟩

end Tally

end Inventory
