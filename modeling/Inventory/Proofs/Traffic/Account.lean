import Inventory.Proofs.Traffic.Effects
import Inventory.Proofs.Traffic.Tally

/-! What the result of a dispatch is worth. A dispatch leaves something behind twice at most: it stores one
batch, and after that it hands just that batch to the publisher. From then on nothing leads back, for the
fault of a publisher is no reason to try again, so the result tells which of both has happened. Nothing is
asked of the store the dispatches begin with, nor of the answers of their publishers. -/
namespace Inventory
variable {Data Handlers State Command : Type}

/-- The rules never raise what only publishers report. -/
structure CommandBus.Quiet (commandBus : CommandBus Data Handlers State Command) : Prop where
  apply : ∀ number state data fault,
    ((commandBus.rules number).apply state data).2 = some fault → fault.isPublish = false
  decide : ∀ number state context command fault,
    (commandBus.rules number).decide state context command = .error fault → fault.isPublish = false

namespace Attempt

/-- What a result says about the steps that led to it. -/
def Answered (attempt : Attempt Data Handlers State Command)
    (journal : List (Entry Data Handlers State Command)) : Except Fault (Committed Data) → Prop
  | .ok ⟨[], version⟩ =>
      Journal.effects journal attempt.index = [] ∧
        ∃ before after, Journal.Latest journal before ⟨attempt, .read version⟩ after
  | .ok ⟨first :: rest, version⟩ =>
      (∃ base, Journal.effects journal attempt.index =
        [⟨attempt, .appended base (first :: rest) (.ok ())⟩,
          ⟨attempt, .published (first :: rest) (.ok ())⟩]) ∧
      (first :: rest).getLast?.map Event.version = some version
  | .error fault =>
      if fault.isPublish then
        ∃ base events cause, Journal.effects journal attempt.index =
          [⟨attempt, .appended base events (.ok ())⟩, ⟨attempt, .published events (.error cause)⟩] ∧
            fault = cause.whilePublishing
      else Journal.effects journal attempt.index = []

/-- What a dispatch left behind when it is in a phase. -/
def Accounted (attempt : Attempt Data Handlers State Command)
    (journal : List (Entry Data Handlers State Command)) : Phase Data State → Prop
  | .publishing context events =>
      Journal.effects journal attempt.index =
        [⟨attempt, .appended context.initialVersion events (.ok ())⟩] ∧
      events.getLast?.map Event.version = some context.version
  | .finished result => attempt.Answered journal result
  | .reading | .deciding _ _ | .stamping _ _ _ | .appending _ _ | .pausing _ =>
      Journal.effects journal attempt.index = []

end Attempt

theorem Fault.isPublish_whilePublishing (fault : Fault) : fault.whilePublishing.isPublish = true := by
  unfold whilePublishing
  split
  next already => exact already
  next => rfl

namespace Attempt

theorem Answered.concat {attempt : Attempt Data Handlers State Command}
    {journal more : List (Entry Data Handlers State Command)} {result : Except Fault (Committed Data)}
    (answered : attempt.Answered journal result)
    (elsewhere : ∀ entry ∈ more, entry.attempt.index ≠ attempt.index) :
    attempt.Answered (journal ++ more) result := by
  match result with
  | .ok ⟨[], version⟩ =>
    obtain ⟨nothing, before, after, latest⟩ := answered
    refine ⟨?_, before, after ++ more, latest.concat elsewhere⟩
    rw [Journal.effects_elsewhere elsewhere]
    exact nothing
  | .ok ⟨first :: rest, version⟩ =>
    simp only [Answered, Journal.effects_elsewhere elsewhere]
    exact answered
  | .error fault =>
    simp only [Answered, Journal.effects_elsewhere elsewhere]
    exact answered

theorem Accounted.concat {attempt : Attempt Data Handlers State Command}
    {journal more : List (Entry Data Handlers State Command)} {phase : Phase Data State}
    (accounted : attempt.Accounted journal phase)
    (elsewhere : ∀ entry ∈ more, entry.attempt.index ≠ attempt.index) :
    attempt.Accounted (journal ++ more) phase := by
  cases phase with
  | finished result => exact Answered.concat accounted elsewhere
  | _ =>
    simp only [Accounted, Journal.effects_elsewhere elsewhere]
    exact accounted

theorem Accounted.effected {attempt : Attempt Data Handlers State Command}
    {journal : List (Entry Data Handlers State Command)} {phase : Phase Data State}
    (accounted : attempt.Accounted journal phase) : attempt.Effected journal phase := by
  match phase with
  | .publishing context events => exact accounted.1
  | .finished (.ok ⟨[], version⟩) => exact .inl accounted.1
  | .finished (.ok ⟨first :: rest, version⟩) =>
    obtain ⟨⟨base, whole⟩, _⟩ := accounted
    exact .inr ⟨base, first :: rest, _, whole⟩
  | .finished (.error fault) =>
    simp only [Accounted, Answered] at accounted
    split at accounted
    · obtain ⟨base, events, cause, whole, _⟩ := accounted
      exact .inr ⟨base, events, _, whole⟩
    · exact .inl accounted
  | .reading | .deciding _ _ | .stamping _ _ _ | .appending _ _ | .pausing _ => exact accounted

/-- In no phase has a dispatch left behind more than a batch and then the call of its publisher. -/
theorem Accounted.effects_cases {attempt : Attempt Data Handlers State Command}
    {journal : List (Entry Data Handlers State Command)} {phase : Phase Data State}
    (accounted : attempt.Accounted journal phase) :
    Journal.effects journal attempt.index = [] ∨ ∃ base events,
      Journal.effects journal attempt.index = [⟨attempt, .appended base events (.ok ())⟩] ∨
        ∃ answer, Journal.effects journal attempt.index =
          [⟨attempt, .appended base events (.ok ())⟩, ⟨attempt, .published events answer⟩] :=
  accounted.effected.cases

theorem accounted_ended {commandBus : CommandBus Data Handlers State Command} {index : Nat}
    {dispatch : Dispatch Data State Command} {journal : List (Entry Data Handlers State Command)}
    {fault : Fault} (unpublished : fault.isPublish = false)
    (nothing : Journal.effects journal index = []) :
    (commandBus.attempt index (dispatch.ended commandBus.retry (.error fault))).Accounted journal
      (dispatch.ended commandBus.retry (.error fault)).phase := by
  rcases dispatch.ended_cases commandBus.retry fault with finished | ⟨_, _, pausing⟩
  · rw [finished]
    simp only [Dispatch.moveTo, Accounted, Answered, unpublished]
    exact nothing
  · rw [pausing]
    exact nothing

end Attempt

variable [Payload Data]

theorem DispatchStep.accounted {registry : EventRegistry Data} {start store later : EventStore}
    {commandBus : CommandBus Data Handlers State Command} {index : Nat}
    {journal : List (Entry Data Handlers State Command)}
    {dispatch next : Dispatch Data State Command} {deed? : Option (Deed Data)}
    (dispatchStep : DispatchStep registry commandBus store dispatch deed? next later) (quiet : commandBus.Quiet)
    (fits : (commandBus.attempt index dispatch).Fits registry start journal dispatch.phase)
    (accounted : (commandBus.attempt index dispatch).Accounted journal dispatch.phase) :
    (commandBus.attempt index next).Accounted (journal ++ (commandBus.attempt index dispatch).entries deed?)
      next.phase := by
  have whole := Journal.effects_entries journal (commandBus.attempt index dispatch) deed?
  have left := dispatchStep.effected accounted.effected
  -- What is left behind is settled, so only the steps that end an attempt or store its batch have more to say.
  cases dispatchStep with
  | unread phase failed =>
    rw [phase] at accounted
    rw [Attempt.entries_none, List.append_nil]
    exact Attempt.accounted_ended (EventRegistry.decodeRecords_fault failed).2 accounted
  | unloaded phase found failed =>
    rw [phase] at accounted
    apply Attempt.accounted_ended (AggregateRegistry.load_fault failed (quiet.apply _))
    exact whole.trans (by rw [accounted]; rfl)
  | undecided phase failed =>
    rw [phase] at accounted
    rw [Attempt.entries_none, List.append_nil]
    exact Attempt.accounted_ended (quiet.decide _ _ _ _ _ failed) accounted
  | idle phase nothing =>
    rw [phase] at fits accounted
    obtain ⟨version, rfl, loaded⟩ := fits
    obtain ⟨history, before, after, latest, _⟩ := loaded.version_read
    rw [Attempt.entries_none, List.append_nil]
    exact ⟨accounted, before, after, latest⟩
  | refused phase failed =>
    rw [phase] at accounted
    apply Attempt.accounted_ended (EventStore.append_fault failed)
    exact whole.trans (by rw [accounted]; rfl)
  | stored phase stores =>
    rw [phase] at fits
    obtain ⟨stamped, version, nonempty, _⟩ := fits
    refine ⟨left, ?_⟩
    rw [version]
    exact stamped.last_version fun empty => nonempty (by rw [empty]; rfl)
  | unpublished fault phase =>
    rw [phase] at accounted
    simp only [Dispatch.moveTo, Attempt.Accounted, Attempt.Answered, Fault.isPublish_whilePublishing,
      if_true]
    exact ⟨_, _, fault, whole.trans (by rw [accounted.1]; rfl), rfl⟩
  | @published context events phase =>
    rw [phase] at accounted
    obtain ⟨stored, last⟩ := accounted
    cases events with
    | nil => cases last
    | cons first rest => exact ⟨⟨_, whole.trans (by rw [stored]; rfl)⟩, last⟩
  | loaded phase | decided phase | looked _ phase | stamped _ phase | taken phase | resumed _ phase => exact left
  | rested phase =>
    rw [Attempt.entries_none, List.append_nil]
    exact accounted

namespace Traffic

theorem Sound.accounted {registry : EventRegistry Data} {start : EventStore}
    {traffic : Traffic Data Handlers State Command} (sound : traffic.Sound registry start)
    (each : traffic.Each fun attempt journal phase => attempt.commandBus.Quiet → attempt.Accounted journal phase)
    (moves : List (Move Data Handlers State Command)) :
    (traffic.run registry moves).Each fun attempt journal phase =>
      attempt.commandBus.Quiet → attempt.Accounted journal phase := by
  induction moves generalizing traffic with
  | nil => exact each
  | cons move rest ih =>
    apply ih (sound.step move)
    apply each.step sound.known
    · intro attempt journal first elsewhere quiet
      have nothing : Journal.effects ([] ++ journal) attempt.index = [] := Journal.effects_elsewhere elsewhere
      exact nothing
    · intro attempt journal more phase before elsewhere quiet
      exact (before quiet).concat elsewhere
    · intro index task moment found engine next quiet
      have dispatchStep := dispatchStep_step task.commandBus registry task.dispatch moment traffic.world
      exact dispatchStep.accounted quiet (sound.fits index task found) (each index task found quiet)

/-- Whatever the store began with and whatever the publishers answer: a stream has what it began with and each
batch that was taken in, once; a dispatch stores one batch at most and hands that batch, and nothing else, to
its publisher once at most; and its result tells which of this happened. -/
theorem accounted_run (registry : EventRegistry Data) (deployment : Deployment Data Handlers)
    (moves : List (Move Data Handlers State Command))
    (quiet : ∀ commandBus moment command, .start commandBus moment command ∈ moves → commandBus.Quiet) :
    let traffic := (opening deployment).run registry moves
    (∀ stream, (traffic.rows stream).Perm (deployment.store.records stream ++
      ((Journal.commits traffic.journal).filter (·.stream = stream)).flatMap Commit.records)) ∧
    (∀ commit ∈ Journal.commits traffic.journal,
      commit.events ≠ [] ∧ Event.toRecords commit.events = .ok commit.records ∧
      ∀ record ∈ commit.records,
        (traffic.rows commit.stream).filter (·.version = record.version) = [record]) ∧
    ∀ index task, traffic.tasks[index]? = some task →
      (Journal.effects traffic.journal index = [] ∨ ∃ base events,
        Journal.effects traffic.journal index =
            [⟨task.attempt index, .appended base events (.ok ())⟩] ∨
          ∃ answer, Journal.effects traffic.journal index =
            [⟨task.attempt index, .appended base events (.ok ())⟩,
              ⟨task.attempt index, .published events answer⟩]) ∧
      ∀ result, task.dispatch.result? = some result →
        (task.attempt index).Answered traffic.journal result := by
  intro traffic
  have sound : traffic.Sound registry deployment.store := (sound_opening registry deployment).run moves
  have ofCommandBuses : traffic.OfCommandBuses CommandBus.Quiet := (ofCommandBuses_opening _ deployment).run moves quiet
  have each : traffic.Each fun attempt journal phase =>
      attempt.commandBus.Quiet → attempt.Accounted journal phase :=
    (sound_opening registry deployment).accounted (fun _ _ found => nomatch found) moves
  refine ⟨?_, ?_, ?_⟩
  · intro stream
    rw [sound.rows_eq]
    exact sound.journal.records_perm stream
  · intro commit member
    obtain ⟨earlier, justified⟩ := sound.journal.justified_of_mem member
    refine ⟨?_, (Journal.taken_in justified).1, ?_⟩
    · intro empty
      apply justified.2.1.1
      rw [empty]
      rfl
    intro record inside
    rw [sound.rows_eq]
    exact sound.journal.records_once member inside
  · intro index task found
    have accounted := each index task found (ofCommandBuses.tasks task (List.mem_of_getElem? found))
    refine ⟨accounted.effects_cases, ?_⟩
    intro result ended
    unfold Dispatch.result? at ended
    split at ended
    next result' finished =>
      cases ended
      rw [finished] at accounted
      exact accounted
    next => cases ended

end Traffic

namespace Tally

theorem quiet_commandBus (answer : Except Fault Unit) : (commandBus answer).Quiet where
  apply _ _ _ _ raised := nomatch raised
  decide _ _ _ _ _ raised := nomatch raised

/-- A dispatch whose publisher reports a conflict. -/
def unheard : List (Move Mark Unit Nat Nat) :=
  .start (commandBus (.error (.conflict stream 1))) ⟨0, .zero⟩ 1 :: List.replicate 7 (.step 0 ⟨3, .zero⟩)

theorem accounted_unheard :
    let traffic := (Traffic.opening (Deployment.fresh none ())).run registry unheard
    ∃ task fault, traffic.tasks[0]? = some task ∧ task.dispatch.result? = some (.error fault) ∧
      fault.isPublish = true ∧ (task.attempt 0).Answered traffic.journal (.error fault) := by
  intro traffic
  have quiet (started : CommandBus Mark Unit Nat Nat) (moment : Moment) (marks : Nat)
      (member : .start started moment marks ∈ unheard) : started.Quiet := by
    rcases List.mem_cons.mp member with same | step
    · cases same
      exact quiet_commandBus _
    · cases List.eq_of_mem_replicate step
  have whole := Traffic.accounted_run registry (Deployment.fresh none ()) unheard quiet
  exact ⟨_, _, rfl, rfl, rfl, (whole.2.2 0 _ rfl).2 _ rfl⟩

end Tally

end Inventory
