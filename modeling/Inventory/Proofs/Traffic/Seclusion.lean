import Inventory.Proofs.Traffic.Within

/-! A stream on its own. Streams share a store, a log, a clock and the thread that all dispatches run on, and yet no
dispatch can tell, but by the times of its events, what goes on in other streams: take away all dispatches to the
others, and those that are left do the same, step by step. -/
namespace Inventory
variable {Data Handlers State Command : Type}

/-- The dispatch was started, and it was neither dropped nor has it come to an end. -/
def Traffic.Pending (traffic : Traffic Data Handlers State Command) (index : Nat) : Prop :=
  ∃ task, traffic.tasks[index]? = some task ∧ task.dropped = false ∧ task.dispatch.result? = none

/-- Only dispatches that are pending are moved. -/
def Move.IsDue (traffic : Traffic Data Handlers State Command) : Move Data Handlers State Command → Prop
  | .step index _ | .drop index => traffic.Pending index
  | .start _ _ _ | .interlude _ => True

theorem Move.eq_of_within? {stream : StreamId} {assignments : List (Assignment Data Handlers State Command)}
    {move left : Move Data Handlers State Command} (kept : move.within? stream assignments = some left) :
    match move with
    | .step index moment =>
        Assignment.isFor stream assignments index = true ∧
          left = .step (Assignment.rank stream assignments index) moment
    | .drop index =>
        Assignment.isFor stream assignments index = true ∧ left = .drop (Assignment.rank stream assignments index)
    | .start _ _ _ | .interlude _ => left = move := by
  cases move with
  | start commandBus moment command =>
    simp only [within?, Option.ite_none_right_eq_some, Option.some_inj] at kept
    exact kept.2.symm
  | step index moment =>
    simp only [within?, Option.ite_none_right_eq_some, Option.some_inj] at kept
    exact ⟨kept.1, kept.2.symm⟩
  | drop index =>
    simp only [within?, Option.ite_none_right_eq_some, Option.some_inj] at kept
    exact ⟨kept.1, kept.2.symm⟩
  | interlude between => exact (Option.some.inj kept).symm

section
variable [Payload Data]

def Deed.sent : Deed Data → List Record
  | .published events (.ok ()) =>
      match Event.toRecords events with
      | .error _ => []
      | .ok batch => batch
  | .published _ (.error _) | .read _ | .appended _ _ _ => []

theorem Deed.sent_untimed (deed : Deed Data) : deed.untimed.sent = deed.sent.map Record.untimed := by
  cases deed with
  | read version => rfl
  | appended version events answer => rfl
  | published events answer =>
    cases answer with
    | error fault => rfl
    | ok done =>
      simp only [untimed, sent, Event.toRecords_untimed]
      cases Event.toRecords events <;> rfl

end

namespace Journal
variable [Payload Data]

theorem sent_eq (journal : List (Entry Data Handlers State Command)) :
    sent journal = (journal.map Entry.deed).flatMap Deed.sent := by
  have single (entry : Entry Data Handlers State Command) : sent [entry] = entry.deed.sent := by
    obtain ⟨attempt, deed⟩ := entry
    cases deed with
    | read version => rfl
    | appended version events answer => rfl
    | published events answer =>
      cases answer with
      | error fault => rfl
      | ok done => exact List.append_nil _
  induction journal with
  | nil => rfl
  | cons entry rest ih => rw [← List.singleton_append, sent_append, ih, single, List.singleton_append,
      List.map_cons, List.flatMap_cons]

theorem sent_congr {journal others : List (Entry Data Handlers State Command)}
    (same : journal.map (·.deed.untimed) = others.map (·.deed.untimed)) :
    (sent journal).map Record.untimed = (sent others).map Record.untimed := by
  have stampless (journal : List (Entry Data Handlers State Command)) :
      (sent journal).map Record.untimed = (journal.map (·.deed.untimed)).flatMap Deed.sent := by
    simp only [sent_eq, List.map_flatMap, List.flatMap_map, Deed.sent_untimed]
  rw [stampless, same, stampless]

theorem Sound.sent_filter {registry : EventRegistry Data} {start : EventStore}
    {journal : List (Entry Data Handlers State Command)} (sound : Sound registry start journal) (stream : StreamId) :
    sent (journal.filter (·.attempt.stream = stream)) = (sent journal).filter (·.stream = stream) := by
  rw [sound.filter_sent, sent, broadcasts, broadcasts, List.filterMap_filter, List.filter_filterMap]
  congr 2
  funext entry
  cases shown : entry.broadcast? with
  | none => simp
  | some broadcast =>
    obtain rfl := Entry.broadcast?_eq_some.mp shown
    by_cases here : broadcast.attempt.stream = stream <;> simp [Broadcast.stream, Option.filter, here]

end Journal

namespace Traffic
variable [Payload Data] {registry : EventRegistry Data} {start : EventStore} {log : List (List UInt8)}
  {stream : StreamId} {traffic alone : Traffic Data Handlers State Command} {index : Nat}

/-- The moves can be made one after the other. -/
def Admits (registry : EventRegistry Data) (traffic : Traffic Data Handlers State Command) :
    List (Move Data Handlers State Command) → Prop
  | [] => True
  | move :: rest => move.IsDue traffic ∧ (traffic.step registry move).Admits registry rest

omit [Payload Data] in
theorem Secluded.pending (secluded : Secluded stream traffic alone) (pending : traffic.Pending index)
    (here : Assignment.isFor stream traffic.assignments index = true) :
    alone.Pending (Assignment.rank stream traffic.assignments index) := by
  obtain ⟨task, found, live, unfinished⟩ := pending
  rw [isFor_assignments found] at here
  obtain ⟨again, there, same⟩ := secluded.exists_task found (of_decide_eq_true here)
  exact ⟨_, there, live, (Dispatch.result?_congr same).mpr unfinished⟩

omit [Payload Data] in
theorem Secluded.isDue (secluded : Secluded stream traffic alone) {move left : Move Data Handlers State Command}
    (due : move.IsDue traffic) (kept : move.within? stream traffic.assignments = some left) : left.IsDue alone := by
  have same := Move.eq_of_within? kept
  cases move with
  | start commandBus moment command =>
    obtain rfl : left = .start commandBus moment command := same
    trivial
  | step index moment =>
    obtain ⟨here, rfl⟩ := same
    exact secluded.pending due here
  | drop index =>
    obtain ⟨here, rfl⟩ := same
    exact secluded.pending due here
  | interlude between =>
    obtain rfl : left = .interlude between := same
    trivial

theorem OnOpenBus.run (onOpenBus : traffic.OnOpenBus registry start log)
    {moves : List (Move Data Handlers State Command)} (onBus : ∀ move ∈ moves, move.OnBus)
    (stays : ∀ move ∈ moves, move.KeepsOpen) : (traffic.run registry moves).OnOpenBus registry start log where
  sound := onOpenBus.sound.run moves
  logged := onOpenBus.logged.run onBus
  heard := onOpenBus.heard.run onOpenBus.sound onOpenBus.logged onBus stays

theorem OnOpenBus.run_within? (onOpenBus : alone.OnOpenBus registry start log)
    {move : Move Data Handlers State Command} (onBus : move.OnBus) (stays : move.KeepsOpen)
    (assignments : List (Assignment Data Handlers State Command)) :
    (alone.run registry (move.within? stream assignments).toList).OnOpenBus registry start log := by
  have both (left : Move Data Handlers State Command) (member : left ∈ (move.within? stream assignments).toList) :
      left.OnBus ∧ left.KeepsOpen := by
    have same := Move.eq_of_within? (Option.mem_toList.mp member)
    cases move with
    | start commandBus moment command =>
      obtain rfl : left = .start commandBus moment command := same
      exact ⟨onBus, stays⟩
    | step index moment =>
      obtain ⟨_, rfl⟩ := same
      exact ⟨trivial, trivial⟩
    | drop index =>
      obtain ⟨_, rfl⟩ := same
      exact ⟨trivial, trivial⟩
    | interlude between =>
      obtain rfl : left = .interlude between := same
      exact ⟨onBus, stays⟩
  exact onOpenBus.run (fun left member => (both left member).1) fun left member => (both left member).2

/-- What is left of the moves leads to what is left of the whole. -/
structure Leaves (registry : EventRegistry Data) (start : EventStore) (log : List (List UInt8)) (stream : StreamId)
    (traffic alone : Traffic Data Handlers State Command) (moves left : List (Move Data Handlers State Command)) :
    Prop where
  secluded : Secluded stream (traffic.run registry moves) (alone.run registry left)
  whole : (traffic.run registry moves).OnOpenBus registry start log
  rest : (alone.run registry left).OnOpenBus registry start log
  admits : traffic.Admits registry moves → alone.Admits registry left

theorem Secluded.run (secluded : Secluded stream traffic alone) (onOpenBus : traffic.OnOpenBus registry start log)
    (alsoOnOpenBus : alone.OnOpenBus registry start log) {moves : List (Move Data Handlers State Command)}
    (onBus : ∀ move ∈ moves, move.OnBus) (stays : ∀ move ∈ moves, move.KeepsOpen) :
    Leaves registry start log stream traffic alone moves (Move.within stream traffic.assignments moves) := by
  -- the dispatches that a move starts are known to the moves behind it, so that both traffics go along
  induction moves generalizing traffic alone with
  | nil => exact ⟨secluded, onOpenBus, alsoOnOpenBus, fun _ => trivial⟩
  | cons move rest ih =>
    obtain ⟨firstOnBus, othersOnBus⟩ := List.forall_mem_cons.mp onBus
    obtain ⟨firstStays, othersStay⟩ := List.forall_mem_cons.mp stays
    have later := ih (secluded.step onOpenBus alsoOnOpenBus move) (onOpenBus.step firstOnBus firstStays)
      (alsoOnOpenBus.run_within? firstOnBus firstStays traffic.assignments) othersOnBus othersStay
    rw [assignments_step] at later
    have joined (next : List (Move Data Handlers State Command)) :
        alone.run registry ((move.within? stream traffic.assignments).toList ++ next) =
          (alone.run registry (move.within? stream traffic.assignments).toList).run registry next :=
      List.foldl_append
    refine ⟨?_, later.whole, ?_, ?_⟩
    · rw [Move.within, joined]
      exact later.secluded
    · rw [Move.within, joined]
      exact later.rest
    · rintro ⟨due, others⟩
      rw [Move.within]
      cases kept : move.within? stream traffic.assignments with
      | none =>
        rw [kept] at later
        exact later.admits others
      | some left =>
        rw [kept] at later
        exact ⟨secluded.isDue due kept, later.admits others⟩

/-- Take away from a run on a bus that stays open all that the dispatches to other streams did. The moves that are left
can still be made. The dispatches that are left come to stand where they stood and make the same attempts with the same
results, and in the stream and in the log they leave the same records in the same order, but for the times. -/
theorem secluded_run (registry : EventRegistry Data) (deployment : Deployment Data Handlers)
    (moves : List (Move Data Handlers State Command)) (stream : StreamId)
    (available : deployment.side.bus.available = true) (onBus : ∀ move ∈ moves, move.OnBus)
    (stays : ∀ move ∈ moves, move.KeepsOpen) :
    let start : Traffic Data Handlers State Command := opening deployment
    let traffic := start.run registry moves
    let left := Move.within stream [] moves
    let alone := start.run registry left
    (start.Admits registry moves → start.Admits registry left) ∧
    alone.tasks.map Task.untimed = (traffic.tasks.filter (·.assignment.stream = stream)).map Task.untimed ∧
    (alone.journal.map Entry.untimed = (traffic.journal.filter (·.attempt.stream = stream)).map fun entry =>
      (entry.moved (Assignment.rank stream traffic.assignments entry.attempt.index)).untimed) ∧
    (alone.rows stream).map Record.untimed = (traffic.rows stream).map Record.untimed ∧
    traffic.world.side.bus.log = deployment.side.bus.log ++ (Journal.sent traffic.journal).map Record.bytes ∧
    alone.world.side.bus.log = deployment.side.bus.log ++ (Journal.sent alone.journal).map Record.bytes ∧
    (Journal.sent alone.journal).map Record.untimed =
      ((Journal.sent traffic.journal).filter (·.stream = stream)).map Record.untimed := by
  intro start traffic left alone
  have onOpenBus : start.OnOpenBus registry deployment.store deployment.side.bus.log :=
    onOpenBus_opening registry available
  have leaves : Leaves registry deployment.store deployment.side.bus.log stream start start moves left :=
    (secluded_opening stream deployment).run onOpenBus onOpenBus onBus stays
  refine ⟨leaves.admits, leaves.secluded.tasks, leaves.secluded.journal, leaves.secluded.view,
    leaves.whole.logged.log_eq, leaves.rest.logged.log_eq, ?_⟩
  rw [← leaves.whole.sound.journal.sent_filter]
  apply Journal.sent_congr
  have deeds := congrArg (List.map Entry.deed) leaves.secluded.journal
  rw [List.map_map, List.map_map] at deeds
  exact deeds

end Traffic

namespace Tally

def nextDoor : CommandBus Mark Unit Nat Nat :=
  { commandBus (.ok ()) with publisher := .eventBus, target := fun _ => ⟨stream.aggregateType, ⟨"1"⟩⟩ }

/-- The neighbour goes first, and the clock is set back after it. -/
def neighbours : List (Move Mark Unit Nat Nat) :=
  [.start nextDoor ⟨8, .zero⟩ 1, .start { commandBus (.ok ()) with publisher := .eventBus } ⟨8, .zero⟩ 1] ++
    List.replicate 7 (.step 0 ⟨9, .zero⟩) ++ List.replicate 7 (.step 1 ⟨5, .zero⟩)

theorem within_neighbours : Move.within stream [] neighbours =
    .start { commandBus (.ok ()) with publisher := .eventBus } ⟨8, .zero⟩ 1 ::
      List.replicate 7 (.step 0 ⟨5, .zero⟩) := by
  simp [neighbours, nextDoor, commandBus, stream, Move.within, Move.within?, Move.assignment?, Assignment.isFor,
    Assignment.rank,
    Assignment.stream]

/-- A stream can tell that it has neighbours by its times, and by nothing else. -/
theorem secluded_neighbours :
    let start : Traffic Mark Unit Nat Nat := .opening (.fresh none ())
    let traffic := start.run registry neighbours
    let alone := start.run registry (Move.within stream [] neighbours)
    start.world.side.bus.available = true ∧ (∀ move ∈ neighbours, move.OnBus) ∧
      (∀ move ∈ neighbours, move.KeepsOpen) ∧ (traffic.rows stream).map Record.timestamp = [9] ∧
        (alone.rows stream).map Record.timestamp = [5] ∧
          (alone.rows stream).map Record.untimed = (traffic.rows stream).map Record.untimed := by
  have onBus : ∀ move ∈ neighbours, move.OnBus := by simp [neighbours, nextDoor, Move.OnBus]
  have stays : ∀ move ∈ neighbours, move.KeepsOpen := by simp [neighbours, Move.KeepsOpen]
  have stamps : (((Traffic.opening (.fresh none ())).run registry neighbours).rows stream).map Record.timestamp = [9] :=
    rfl
  have ownStamps : (((Traffic.opening (.fresh none ())).run registry (Move.within stream [] neighbours)).rows
      stream).map Record.timestamp = [5] := by
    rw [within_neighbours]
    rfl
  have same := Traffic.secluded_run registry (Deployment.fresh none ()) neighbours stream rfl onBus stays
  exact ⟨rfl, onBus, stays, stamps, ownStamps, same.2.2.2.1⟩

end Tally

end Inventory
