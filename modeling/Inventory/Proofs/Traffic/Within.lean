import Inventory.Proofs.Traffic.Assignments
import Inventory.Proofs.Traffic.Likeness

/-! The dispatches for one stream, taken by themselves. When those for other streams are taken away, the moves that are
left are numbered anew, and each of them does what it did before, up to stamps: on a bus that stays open there is no way
from a dispatch to a stream that it is not for. -/
namespace Inventory

section
variable {Item : Type} {items : List Item} {holds : Item → Bool} {place : Nat} {item : Item}

theorem getElem?_filter_countP (found : items[place]? = some item) (picked : holds item = true) :
    (items.filter holds)[(items.take place).countP holds]? = some item := by
  obtain ⟨before, behind, rfl, rfl, _⟩ := exists_around found
  simp [picked, List.countP_eq_length_filter]

theorem filter_set_of_pos (found : items[place]? = some item) (picked : holds item = true) {next : Item}
    (again : holds next = true) :
    (items.set place next).filter holds = (items.filter holds).set ((items.take place).countP holds) next := by
  obtain ⟨before, behind, rfl, rfl, set⟩ := exists_around found
  simp [set, picked, again, List.countP_eq_length_filter]

theorem filter_set_of_neg (found : items[place]? = some item) (passed : holds item = false) {next : Item}
    (again : holds next = false) : (items.set place next).filter holds = items.filter holds := by
  obtain ⟨before, behind, rfl, _, set⟩ := exists_around found
  simp [set, passed, again]

end

variable {Data Handlers State Command : Type}

def Task.untimed (task : Task Data Handlers State Command) : Task Data Handlers State Command :=
  { task with dispatch := task.dispatch.untimed }

def Entry.untimed (entry : Entry Data Handlers State Command) : Entry Data Handlers State Command :=
  { entry with deed := entry.deed.untimed }

/-- The same entry of a dispatch in another place. -/
def Entry.moved (entry : Entry Data Handlers State Command) (index : Nat) : Entry Data Handlers State Command :=
  { entry with attempt := { entry.attempt with index } }

/-- How many of the dispatches before this one are for the stream. -/
def Assignment.rank (stream : StreamId) (assignments : List (Assignment Data Handlers State Command)) (index : Nat) :
    Nat :=
  (assignments.take index).countP (·.stream = stream)

def Assignment.isFor (stream : StreamId) (assignments : List (Assignment Data Handlers State Command)) (index : Nat) :
    Bool :=
  assignments[index]?.any (·.stream = stream)

/-- What a move is when only the dispatches for one stream are there, given which dispatches were started. -/
def Move.within? (stream : StreamId) (assignments : List (Assignment Data Handlers State Command)) :
    Move Data Handlers State Command → Option (Move Data Handlers State Command)
  | .start commandBus moment command =>
      if commandBus.target command = stream then some (.start commandBus moment command) else none
  | .step index moment =>
      if Assignment.isFor stream assignments index then some (.step (Assignment.rank stream assignments index) moment)
      else none
  | .drop index =>
      if Assignment.isFor stream assignments index then some (.drop (Assignment.rank stream assignments index))
      else none
  | .interlude between => some (.interlude between)

def Move.within (stream : StreamId) (assignments : List (Assignment Data Handlers State Command)) :
    List (Move Data Handlers State Command) → List (Move Data Handlers State Command)
  | [] => []
  | move :: rest =>
      (move.within? stream assignments).toList ++ within stream (assignments ++ move.assignment?.toList) rest

namespace Traffic

/-- In the second traffic are the dispatches of the first that are for the stream, and they have done the same. -/
structure Secluded (stream : StreamId) (traffic alone : Traffic Data Handlers State Command) : Prop where
  tasks : alone.tasks.map Task.untimed = (traffic.tasks.filter (·.assignment.stream = stream)).map Task.untimed
  journal : alone.journal.map Entry.untimed = (traffic.journal.filter (·.attempt.stream = stream)).map fun entry =>
    (entry.moved (Assignment.rank stream traffic.assignments entry.attempt.index)).untimed
  view : alone.world.view stream = traffic.world.view stream

theorem secluded_opening (stream : StreamId) (deployment : Deployment Data Handlers) :
    Secluded stream (opening deployment : Traffic Data Handlers State Command) (opening deployment) where
  tasks := rfl
  journal := rfl
  view := rfl

end Traffic

theorem Assignment.rank_append {stream : StreamId} {assignments more : List (Assignment Data Handlers State Command)}
    {index : Nat}
    (known : index < assignments.length) : rank stream (assignments ++ more) index = rank stream assignments index := by
  rw [rank, rank, List.take_append_of_le_length (Nat.le_of_lt known)]

theorem Attempt.filter_entries {stream : StreamId} (attempt : Attempt Data Handlers State Command)
    (deed? : Option (Deed Data)) : (attempt.entries deed?).filter (·.attempt.stream = stream) =
      if attempt.stream = stream then attempt.entries deed? else [] := by
  cases deed? with
  | none => simp
  | some deed => simp [List.filter_cons]

theorem Attempt.entries_untimed (attempt : Attempt Data Handlers State Command) (deed? : Option (Deed Data)) :
    (attempt.entries deed?).map Entry.untimed = attempt.entries (deed?.map Deed.untimed) := by
  cases deed? <;> rfl

theorem Attempt.entries_moved (attempt : Attempt Data Handlers State Command) (deed? : Option (Deed Data))
    (place : Nat → Nat) :
    (attempt.entries deed?).map (fun entry => (entry.moved (place entry.attempt.index)).untimed) =
      { attempt with index := place attempt.index }.entries (deed?.map Deed.untimed) := by
  cases deed? <;> rfl

namespace Traffic
variable {stream : StreamId} {traffic alone : Traffic Data Handlers State Command} {index : Nat}
  {task : Task Data Handlers State Command}

theorem rank_assignments (stream : StreamId) (traffic : Traffic Data Handlers State Command) (index : Nat) :
    Assignment.rank stream traffic.assignments index =
      (traffic.tasks.take index).countP (·.assignment.stream = stream) := by
  rw [Assignment.rank, assignments, ← List.map_take, List.countP_map]
  rfl

theorem isFor_assignments (found : traffic.tasks[index]? = some task) :
    Assignment.isFor stream traffic.assignments index = decide (task.assignment.stream = stream) := by
  rw [Assignment.isFor, assignments, List.getElem?_map, found]
  rfl

theorem isFor_missing (missing : traffic.tasks[index]? = none) :
    Assignment.isFor stream traffic.assignments index = false := by
  rw [Assignment.isFor, assignments, List.getElem?_map, missing]
  rfl

theorem Secluded.exists_task (secluded : Secluded stream traffic alone) (found : traffic.tasks[index]? = some task)
    (here : task.assignment.stream = stream) :
    ∃ again, alone.tasks[Assignment.rank stream traffic.assignments index]? = some { task with dispatch := again } ∧
      again.untimed = task.dispatch.untimed := by
  have picked : (traffic.tasks.filter (·.assignment.stream = stream))[
      (traffic.tasks.take index).countP (·.assignment.stream = stream)]? = some task :=
    getElem?_filter_countP found (decide_eq_true here)
  have there := congrArg (·[Assignment.rank stream traffic.assignments index]?) secluded.tasks
  simp only [List.getElem?_map, rank_assignments, picked, Option.map_some] at there
  obtain ⟨⟨commandBus, again, dropped⟩, alsoFound, same⟩ := Option.map_eq_some_iff.mp there
  obtain rfl : commandBus = task.commandBus := congrArg Task.commandBus same
  obtain rfl : dropped = task.dropped := congrArg Task.dropped same
  rw [rank_assignments]
  exact ⟨again, alsoFound, congrArg Task.dispatch same⟩

theorem Secluded.tasks_set (secluded : Secluded stream traffic alone) (found : traffic.tasks[index]? = some task)
    (here : task.assignment.stream = stream) {next other : Task Data Handlers State Command}
    (stays : next.assignment.stream = stream) (same : other.untimed = next.untimed) :
    (alone.tasks.set (Assignment.rank stream traffic.assignments index) other).map Task.untimed =
      ((traffic.tasks.set index next).filter (·.assignment.stream = stream)).map Task.untimed := by
  rw [filter_set_of_pos found (decide_eq_true here) (decide_eq_true stays), List.map_set, List.map_set, secluded.tasks,
    rank_assignments, same]

variable [Payload Data] {registry : EventRegistry Data} {start : EventStore} {log : List (List UInt8)}

/-- All dispatches publish on a bus that stays open. -/
structure OnOpenBus (registry : EventRegistry Data) (start : EventStore) (log : List (List UInt8))
    (traffic : Traffic Data Handlers State Command) : Prop where
  sound : traffic.Sound registry start
  logged : traffic.Logged log
  heard : traffic.Heard

theorem onOpenBus_opening (registry : EventRegistry Data) {deployment : Deployment Data Handlers}
    (available : deployment.side.bus.available = true) :
    (opening deployment : Traffic Data Handlers State Command).OnOpenBus registry deployment.store
      deployment.side.bus.log where
  sound := sound_opening registry deployment
  logged := logged_opening deployment
  heard := heard_opening available

theorem OnOpenBus.step (onOpenBus : traffic.OnOpenBus registry start log)
    {move : Move Data Handlers State Command} (onBus : move.OnBus) (stays : move.KeepsOpen) :
    (traffic.step registry move).OnOpenBus registry start log where
  sound := onOpenBus.sound.step move
  logged := onOpenBus.logged.step onBus
  heard := onOpenBus.heard.step onOpenBus.sound onOpenBus.logged stays

section Advance
variable {moment : Moment}
  (secluded : Secluded stream traffic alone) (onOpenBus : traffic.OnOpenBus registry start log)
  (found : traffic.tasks[index]? = some task)
include secluded onOpenBus found

/-- What is done for other streams shows nowhere here. -/
theorem Secluded.advance_elsewhere (elsewhere : task.assignment.stream ≠ stream) :
    Secluded stream (traffic.advance registry index task moment) alone := by
  have dispatchStep := dispatchStep_step task.commandBus registry task.dispatch moment traffic.world
  refine ⟨?_, ?_, ?_⟩
  · have still :
        (Assignment.mk task.commandBus
          (task.dispatch.step (task.commandBus.engine registry task.dispatch.attempt) moment
            traffic.world).1.command).stream ≠ stream := by
      rw [dispatchStep.command_eq]
      exact elsewhere
    rw [secluded.tasks]
    exact congrArg (List.map Task.untimed)
      (filter_set_of_neg found (decide_eq_false elsewhere) (decide_eq_false still)).symm
  · have passed : (task.attempt index).stream ≠ stream := elsewhere
    rw [secluded.journal, assignments_advance registry found]
    simp only [advance, List.filter_append, Attempt.filter_entries, if_neg passed, List.append_nil]
  · rw [secluded.view]
    exact congrArg (List.map Record.untimed)
      (dispatchStep.records_elsewhere (onOpenBus.sound.addressed found) elsewhere).symm

theorem Secluded.advance_here (here : task.assignment.stream = stream)
    (alsoOnOpenBus : alone.OnOpenBus registry start log)
    {again : Dispatch Data State Command}
    (there : alone.tasks[Assignment.rank stream traffic.assignments index]? = some { task with dispatch := again })
    (same : again.untimed = task.dispatch.untimed) :
    Secluded stream (traffic.advance registry index task moment)
      (alone.advance registry (Assignment.rank stream traffic.assignments index) { task with dispatch := again }
        moment) := by
  have onBus := onOpenBus.logged.onBus.tasks task (List.mem_of_getElem? found)
  have command := (dispatchStep_step task.commandBus registry task.dispatch moment traffic.world).command_eq
  -- rules and registries may differ from attempt to attempt, and it is the same attempt here and there
  have number := Dispatch.attempt_congr same
  have addressed : task.dispatch.Addressed stream := here ▸ onOpenBus.sound.addressed found
  have alsoAddressed : again.Addressed stream := by
    have target := alsoOnOpenBus.sound.addressed there
    dsimp only at target
    rw [Dispatch.command_congr same] at target
    exact here ▸ target
  have seen : Dispatch.seen stream (again.step (task.commandBus.engine registry again.attempt) moment alone.world) =
      Dispatch.seen stream
        (task.dispatch.step (task.commandBus.engine registry task.dispatch.attempt) moment traffic.world) := by
    rw [number]
    exact Dispatch.seen_step_congr same here onBus onOpenBus.heard.available alsoOnOpenBus.heard.available
      secluded.view.symm addressed alsoAddressed
  have deeds : (again.deed? (task.commandBus.engine registry again.attempt) alone.world).map Deed.untimed =
      (task.dispatch.deed? (task.commandBus.engine registry task.dispatch.attempt) traffic.world).map Deed.untimed := by
    rw [number]
    exact Dispatch.deed?_congr same here onBus onOpenBus.heard.available alsoOnOpenBus.heard.available
      secluded.view.symm addressed alsoAddressed
  refine ⟨?_, ?_, congrArg Prod.snd seen⟩
  · refine secluded.tasks_set found here ?_ ?_
    · exact (congrArg task.commandBus.target command).trans here
    · exact congrArg (fun dispatch => { task with dispatch }) (congrArg Prod.fst seen)
  · have own : (task.attempt index).stream = stream := here
    rw [assignments_advance registry found]
    simp only [advance, List.map_append, List.filter_append, Attempt.filter_entries, if_pos own, secluded.journal,
      Attempt.entries_untimed, Attempt.entries_moved, deeds]
    simp only [Task.attempt, CommandBus.attempt, number, Dispatch.command_congr same]

end Advance

theorem drop_of_found {index : Nat} {task : Task Data Handlers State Command}
    (found : traffic.tasks[index]? = some task) :
    traffic.step registry (.drop index) = { traffic with tasks := traffic.tasks.set index task.drop } := by
  simp [step, List.modify_eq_set_getElem?, found]

theorem drop_of_missing {index : Nat} (missing : traffic.tasks[index]? = none) :
    traffic.step registry (.drop index) = traffic := by
  simp [step, List.modify_eq_set_getElem?, missing]

section Step
variable (secluded : Secluded stream traffic alone)
include secluded

theorem Secluded.step_start (known : traffic.Known) (commandBus : CommandBus Data Handlers State Command)
    (moment : Moment) (command : Command) : Secluded stream (traffic.step registry (.start commandBus moment command))
      (alone.run registry ((Move.start commandBus moment command).within? stream traffic.assignments).toList) := by
  have assignments := traffic.assignments_step registry (.start commandBus moment command)
  have journal : alone.journal.map Entry.untimed = (traffic.journal.filter (·.attempt.stream = stream)).map fun entry =>
      (entry.moved (Assignment.rank stream (traffic.step registry (.start commandBus moment command)).assignments
        entry.attempt.index)).untimed := by
    -- who comes last changes no place that the entries so far are moved to
    rw [secluded.journal, assignments]
    refine List.map_congr_left fun entry member => ?_
    have before := known entry (List.mem_filter.mp member).1
    rw [Assignment.rank_append]
    rw [Traffic.assignments, List.length_map]
    exact before
  have fresh :
      (Task.mk commandBus (Dispatch.start (commandBus.engine registry 1) moment command) false).assignment.stream =
        commandBus.target command := rfl
  by_cases here : commandBus.target command = stream
  · simp only [Move.within?, here, if_true, Option.toList_some]
    refine ⟨?_, journal, secluded.view⟩
    simp [run, Traffic.step, secluded.tasks, fresh, here]
  · simp only [Move.within?, here, if_false, Option.toList_none]
    refine ⟨?_, journal, secluded.view⟩
    simp [run, Traffic.step, secluded.tasks, fresh, here]

theorem Secluded.step_drop (index : Nat) : Secluded stream (traffic.step registry (.drop index))
    (alone.run registry ((Move.drop index).within? stream traffic.assignments).toList) := by
  cases found : traffic.tasks[index]? with
  | none =>
    rw [Move.within?, isFor_missing found, drop_of_missing found]
    exact secluded
  | some task =>
    have assignments := traffic.assignments_step registry (.drop index)
    rw [drop_of_found found, Move.assignment?, Option.toList_none, List.append_nil] at assignments
    rw [Move.within?, isFor_assignments found, drop_of_found found]
    by_cases here : task.assignment.stream = stream
    · obtain ⟨again, there, same⟩ := secluded.exists_task found here
      simp only [here, decide_true, if_true, Option.toList_some]
      change Secluded stream _ (alone.step registry (.drop _))
      rw [drop_of_found there]
      refine ⟨secluded.tasks_set found here here ?_, ?_, secluded.view⟩
      · exact congrArg (fun dispatch => { task.drop with dispatch }) same
      · rw [assignments, secluded.journal]
    · simp only [here, decide_false, Bool.false_eq_true, if_false, Option.toList_none]
      refine ⟨?_, ?_, secluded.view⟩
      · rw [filter_set_of_neg found (decide_eq_false here) (decide_eq_false here)]
        exact secluded.tasks
      · rw [assignments]
        exact secluded.journal

theorem Secluded.step (onOpenBus : traffic.OnOpenBus registry start log)
    (alsoOnOpenBus : alone.OnOpenBus registry start log) (move : Move Data Handlers State Command) :
    Secluded stream (traffic.step registry move)
      (alone.run registry (move.within? stream traffic.assignments).toList) := by
  cases move with
  | start commandBus moment command => exact secluded.step_start onOpenBus.sound.known commandBus moment command
  | step index moment =>
    cases found : traffic.tasks[index]? with
    | none =>
      rw [Move.within?, isFor_missing found, step_of_missing found]
      exact secluded
    | some task =>
      rw [Move.within?, isFor_assignments found]
      by_cases here : task.assignment.stream = stream
      · obtain ⟨again, there, same⟩ := secluded.exists_task found here
        simp only [here, decide_true, if_true, Option.toList_some]
        change Secluded stream _ (alone.step registry (.step _ moment))
        cases live : task.dropped with
        | true =>
          rw [step_of_dropped found live, step_of_dropped there live]
          exact secluded
        | false =>
          rw [step_of_live found live, step_of_live there live]
          exact secluded.advance_here onOpenBus found here alsoOnOpenBus there same
      · simp only [here, decide_false, Bool.false_eq_true, if_false, Option.toList_none]
        change Secluded stream _ alone
        cases live : task.dropped with
        | true =>
          rw [step_of_dropped found live]
          exact secluded
        | false =>
          rw [step_of_live found live]
          exact secluded.advance_elsewhere onOpenBus found here
  | drop index => exact secluded.step_drop index
  | interlude between =>
    refine ⟨secluded.tasks, secluded.journal, ?_⟩
    have kept (deployment : Deployment Data Handlers) :
        (between.pass deployment).view stream = deployment.view stream := by
      rw [Deployment.view, between.store_pass]
      rfl
    exact (kept alone.world).trans (secluded.view.trans (kept traffic.world).symm)

end Step

end Traffic

end Inventory
