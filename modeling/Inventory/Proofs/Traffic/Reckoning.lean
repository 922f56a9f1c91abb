import Inventory.Proofs.Traffic.MetricsCalls

/-! What the metrics show of the traffic. All dispatches count in the same metrics, and whatever they do, these show
what comes of the dispatches and of the journal; what else happens leaves these counters alone. -/
namespace Inventory
variable {Data Handlers State Command : Type}

def Assignment.aggregateType (assignment : Assignment Data Handlers State Command) : String :=
  assignment.stream.aggregateType.text

def Task.units (task : Task Data Handlers State Command) : Units :=
  task.dispatch.units task.assignment.aggregateType

def Entry.units (entry : Entry Data Handlers State Command) : Units :=
  entry.deed.units entry.attempt.assignment.aggregateType

def Traffic.units (traffic : Traffic Data Handlers State Command) : Units :=
  (traffic.tasks.map Task.units).sum + (traffic.journal.map Entry.units).sum

theorem Dispatch.ended_attempt (dispatch : Dispatch Data State Command) (policy : Retry.Policy)
    (result : Except Fault (Committed Data)) : (dispatch.ended policy result).attempt = dispatch.attempt := by
  unfold ended
  split <;> rfl

theorem rebalance {before after old new journal noted counted : Units} (moved : after + old = before + new)
    (accounts : new + noted = old + counted) : after + (journal + noted) = before + journal + counted := by
  apply add_right_cancel (b := old)
  calc after + (journal + noted) + old
    _ = after + old + journal + noted := by abel
    _ = before + journal + (new + noted) := by rw [moved]; abel
    _ = before + journal + counted + old := by rw [accounts]; abel

variable [Payload Data]

theorem DispatchStep.attempt_le {registry : EventRegistry Data} {commandBus : CommandBus Data Handlers State Command}
    {store later : EventStore} {dispatch next : Dispatch Data State Command} {deed? : Option (Deed Data)}
    (dispatchStep : DispatchStep registry commandBus store dispatch deed? next later) :
    dispatch.attempt ≤ next.attempt := by
  cases dispatchStep with
  | unread | unloaded | undecided | refused => exact Nat.le_of_eq (Dispatch.ended_attempt ..).symm
  | resumed => exact Nat.le_succ _
  | _ => exact Nat.le_refl _

namespace Traffic
variable {registry : EventRegistry Data} {traffic : Traffic Data Handlers State Command}
  {move : Move Data Handlers State Command}

/-- Dispatches publish on the bus and know of conflicts from the store only, and the metrics show what was counted. -/
structure Reckoned (traffic : Traffic Data Handlers State Command) : Prop where
  onBus : traffic.OfCommandBuses fun commandBus => commandBus.publisher = .eventBus
  undisputed : traffic.OfCommandBuses CommandBus.Undisputed
  positive : ∀ task ∈ traffic.tasks, 0 < task.dispatch.attempt
  shown : ∃ metrics, traffic.world.side.metrics = some metrics ∧ metrics.Shows traffic.units

theorem reckoned_opening {deployment : Deployment Data Handlers}
    (fresh : deployment.side.metrics = some .empty) :
    (opening deployment : Traffic Data Handlers State Command).Reckoned where
  onBus := ofCommandBuses_opening _ deployment
  undisputed := ofCommandBuses_opening _ deployment
  positive _ member := nomatch member
  shown := ⟨.empty, fresh, Metrics.shows_empty⟩

theorem units_start (commandBus : CommandBus Data Handlers State Command) (moment : Moment) (command : Command) :
    (traffic.step registry (.start commandBus moment command)).units = traffic.units := by
  rw [units, step, List.map_append, List.sum_append]
  exact congrArg (· + _) (add_zero (traffic.tasks.map Task.units).sum)

theorem units_drop (index : Nat) : (traffic.step registry (.drop index)).units = traffic.units := by
  have same : (traffic.tasks.modify index Task.drop).map Task.units = traffic.tasks.map Task.units := by
    apply List.ext_getElem?
    intro other
    rw [List.getElem?_map, List.getElem?_modify, List.getElem?_map]
    cases traffic.tasks[other]? with
    | none => rfl
    | some task => split <;> rfl
  rw [units, step, same]
  rfl

theorem units_advance (undisputed : traffic.OfCommandBuses CommandBus.Undisputed) {index : Nat}
    {task : Task Data Handlers State Command} (found : traffic.tasks[index]? = some task)
    (positive : 0 < task.dispatch.attempt) (moment : Moment) :
    let engine := task.commandBus.engine registry task.dispatch.attempt
    let next := task.dispatch.step engine moment traffic.world
    (traffic.advance registry index task moment).units = traffic.units +
      ((task.dispatch.metricsCalls (task.dispatch.deed? engine traffic.world) next.1.phase task.assignment.aggregateType
        (task.dispatch.secondsUntil moment)).map MetricsCall.units).sum := by
  intro engine next
  have dispatchStep := dispatchStep_step task.commandBus registry task.dispatch moment traffic.world
  have accounts := dispatchStep.accounts (undisputed.tasks task (List.mem_of_getElem? found)) positive
    task.assignment.aggregateType (task.dispatch.secondsUntil moment)
  have moved := sum_map_set Task.units found { task with dispatch := next.1 }
  have noted : (((task.attempt index).entries (task.dispatch.deed? engine traffic.world)).map Entry.units).sum =
      (task.dispatch.deed? engine traffic.world).elim 0 (Deed.units task.assignment.aggregateType) := by
    cases task.dispatch.deed? engine traffic.world with
    | none => rfl
    | some deed => exact add_zero _
  have own : Task.units { task with dispatch := next.1 } = next.1.units task.assignment.aggregateType := by
    rw [Task.units, Task.assignment, dispatchStep.command_eq]
    rfl
  rw [own] at moved
  rw [units, advance, List.map_append, List.sum_append, noted]
  exact rebalance moved accounts

theorem Reckoned.step (reckoned : traffic.Reckoned)
    (started : ∀ commandBus moment command, move = .start commandBus moment command →
      commandBus.publisher = .eventBus ∧ commandBus.Undisputed)
    (elsewhere : ∀ between, move = .interlude between →
      Metrics.Alike traffic.world.side.metrics (between.pass traffic.world).side.metrics) :
    (traffic.step registry move).Reckoned where
  onBus := reckoned.onBus.step move fun commandBus moment command same => (started commandBus moment command same).1
  undisputed := reckoned.undisputed.step move fun commandBus moment command same =>
    (started commandBus moment command same).2
  positive := by
    intro task member
    obtain ⟨index, found⟩ := List.getElem?_of_mem member
    refine tasks_step (fun _ _ dispatch => 0 < dispatch.attempt) (fun _ _ dispatch => 0 < dispatch.attempt) move
      (fun index task found => reckoned.positive task (List.mem_of_getElem? found)) ?_ ?_ ?_ index task found
    · exact fun commandBus moment command same => Nat.one_pos
    · exact fun index task found still positive => positive
    · intro index task moment same found live
      have positive := reckoned.positive task (List.mem_of_getElem? found)
      exact Nat.lt_of_lt_of_le positive
        (dispatchStep_step task.commandBus registry task.dispatch moment traffic.world).attempt_le
  shown := by
    obtain ⟨metrics, there, shows⟩ := reckoned.shown
    cases move with
    | start commandBus moment command =>
      refine ⟨metrics, there, ?_⟩
      rw [units_start]
      exact shows
    | step index moment =>
      simp only [Traffic.step]
      split
      · exact ⟨metrics, there, shows⟩
      next task found =>
        split
        · exact ⟨metrics, there, shows⟩
        · have inside := List.mem_of_getElem? found
          have written := Dispatch.step_metrics registry (reckoned.onBus.tasks task inside) task.dispatch moment
            traffic.world
          rw [there] at written
          refine ⟨_, written, ?_⟩
          rw [units_advance reckoned.undisputed found (reckoned.positive task inside)]
          exact shows.metricsCalls _
    | drop index =>
      refine ⟨metrics, there, ?_⟩
      rw [units_drop]
      exact shows
    | interlude between =>
      obtain ⟨later, after, alike⟩ := elsewhere between rfl metrics there
      refine ⟨later, after, fun meter => ?_⟩
      rw [alike]
      exact shows meter

/-- The metrics account for the dispatches and their batches, from nothing on. -/
structure Accounted (registry : EventRegistry Data) (traffic : Traffic Data Handlers State Command) : Prop where
  sound : traffic.Sound registry .empty
  logged : traffic.Logged []
  signed : traffic.Signed
  reckoned : traffic.Reckoned

theorem accounted_opening (registry : EventRegistry Data) (handlers : Handlers) :
    (opening (.fresh (some .empty) handlers) : Traffic Data Handlers State Command).Accounted registry where
  sound := sound_opening registry (.fresh (some .empty) handlers)
  logged := logged_opening (.fresh (some .empty) handlers)
  signed _ member := nomatch member
  reckoned := reckoned_opening rfl

theorem Accounted.start (accounted : traffic.Accounted registry) {commandBus : CommandBus Data Handlers State Command}
    (onBus : commandBus.publisher = .eventBus) (undisputed : commandBus.Undisputed) (moment : Moment)
    (command : Command) :
    (traffic.step registry (.start commandBus moment command)).Accounted registry where
  sound := accounted.sound.step _
  logged := accounted.logged.step onBus
  signed := accounted.signed.step _
  reckoned := by
    refine accounted.reckoned.step ?_ fun _ same => nomatch same
    rintro _ _ _ ⟨⟩
    exact ⟨onBus, undisputed⟩

theorem Accounted.step (accounted : traffic.Accounted registry) (index : Nat) (moment : Moment) :
    (traffic.step registry (.step index moment)).Accounted registry where
  sound := accounted.sound.step _
  logged := accounted.logged.step trivial
  signed := accounted.signed.step _
  reckoned := accounted.reckoned.step (fun _ _ _ same => nomatch same) fun _ same => nomatch same

end Traffic

end Inventory
