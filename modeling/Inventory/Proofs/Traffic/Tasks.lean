import Inventory.Proofs.Traffic
import Mathlib.Tactic.Common

/-! What holds of every dispatch in traffic. A step concerns the dispatch that takes it; to all others it is
only some entries in the journal that are not theirs. So an invariant of dispatches is shown by a fresh one,
by a step of its own, and by entries of others. -/
namespace Inventory
variable {Data Handlers State Command : Type} [Payload Data]

namespace Traffic

/-- Whoever has noted something has been started. -/
def Known (traffic : Traffic Data Handlers State Command) : Prop :=
  ∀ entry ∈ traffic.journal, entry.attempt.index < traffic.tasks.length

/-- Every dispatch, in the attempt and the phase that it is in, fits the journal. -/
def Each (fits : Attempt Data Handlers State Command → List (Entry Data Handlers State Command) →
    Phase Data State → Prop) (traffic : Traffic Data Handlers State Command) : Prop :=
  ∀ index (task : Task Data Handlers State Command), traffic.tasks[index]? = some task →
    fits (task.attempt index) traffic.journal task.dispatch.phase

/-- All dispatches, and all that was noted, are of such command buses. -/
structure OfCommandBuses (holds : CommandBus Data Handlers State Command → Prop)
    (traffic : Traffic Data Handlers State Command) : Prop where
  tasks : ∀ task ∈ traffic.tasks, holds task.commandBus
  journal : ∀ entry ∈ traffic.journal, holds entry.attempt.commandBus

variable {registry : EventRegistry Data} {traffic : Traffic Data Handlers State Command}
  {holds : CommandBus Data Handlers State Command → Prop}
  {fits : Attempt Data Handlers State Command → List (Entry Data Handlers State Command) →
    Phase Data State → Prop}

omit [Payload Data] in
theorem ofCommandBuses_opening (holds : CommandBus Data Handlers State Command → Prop)
    (deployment : Deployment Data Handlers) : (opening deployment).OfCommandBuses holds where
  tasks _ member := nomatch member
  journal _ member := nomatch member

theorem OfCommandBuses.step (ofCommandBuses : traffic.OfCommandBuses holds) (move : Move Data Handlers State Command)
    (started : ∀ commandBus moment command, move = .start commandBus moment command → holds commandBus) :
    (traffic.step registry move).OfCommandBuses holds := by
  cases move with
  | start commandBus moment command =>
    refine ⟨?_, ofCommandBuses.journal⟩
    intro task member
    rcases List.mem_append.mp member with old | new
    · exact ofCommandBuses.tasks task old
    · rw [List.mem_singleton.mp new]
      exact started commandBus moment command rfl
  | step index moment =>
    simp only [Traffic.step]
    split
    · exact ofCommandBuses
    next task found =>
      split
      · exact ofCommandBuses
      · have known := ofCommandBuses.tasks task (List.mem_of_getElem? found)
        constructor
        · intro other member
          rcases List.mem_or_eq_of_mem_set member with old | rfl
          · exact ofCommandBuses.tasks other old
          · exact known
        · intro entry member
          rcases List.mem_append.mp member with old | new
          · exact ofCommandBuses.journal entry old
          · rw [Attempt.of_mem_entries new]
            exact known
  | drop index =>
    refine ⟨?_, ofCommandBuses.journal⟩
    intro task member
    obtain ⟨position, found⟩ := List.getElem?_of_mem member
    simp only [Traffic.step, List.getElem?_modify] at found
    obtain ⟨old, oldFound, rfl⟩ := Option.map_eq_some_iff.mp found
    have known := ofCommandBuses.tasks old (List.mem_of_getElem? oldFound)
    split <;> exact known
  | interlude interlude => exact ⟨ofCommandBuses.tasks, ofCommandBuses.journal⟩

theorem OfCommandBuses.run (ofCommandBuses : traffic.OfCommandBuses holds)
    (moves : List (Move Data Handlers State Command))
    (started : ∀ commandBus moment command, .start commandBus moment command ∈ moves → holds commandBus) :
    (traffic.run registry moves).OfCommandBuses holds := by
  induction moves generalizing traffic with
  | nil => exact ofCommandBuses
  | cons move rest ih =>
    apply ih
    · apply ofCommandBuses.step
      rintro commandBus moment command rfl
      exact started commandBus moment command List.mem_cons_self
    · intro commandBus moment command member
      exact started commandBus moment command (List.mem_cons_of_mem move member)

theorem Known.step (known : traffic.Known) (move : Move Data Handlers State Command) :
    (traffic.step registry move).Known := by
  cases move with
  | start commandBus moment command =>
    intro entry member
    have before := known entry member
    simp only [Traffic.step, List.length_append, List.length_singleton]
    omega
  | step index moment =>
    simp only [Traffic.step]
    split
    · exact known
    next task found =>
      split
      · exact known
      · intro entry member
        change entry.attempt.index < (traffic.tasks.set index _).length
        rw [List.length_set]
        rcases List.mem_append.mp member with old | new
        · exact known entry old
        · rw [Attempt.of_mem_entries new]
          exact (List.getElem?_eq_some_iff.mp found).1
  | drop index =>
    intro entry member
    simp only [Traffic.step, List.length_modify]
    exact known entry member
  | interlude interlude => exact known

theorem Each.step (each : traffic.Each fits) (known : traffic.Known)
    (fresh : ∀ attempt journal, attempt.number = 1 →
      (∀ entry ∈ journal, entry.attempt.index ≠ attempt.index) → fits attempt journal .reading)
    (frame : ∀ attempt journal more phase, fits attempt journal phase →
      (∀ entry ∈ more, entry.attempt.index ≠ attempt.index) → fits attempt (journal ++ more) phase)
    (own : ∀ index task moment, traffic.tasks[index]? = some task →
      let engine := task.commandBus.engine registry task.dispatch.attempt
      let next := task.dispatch.step engine moment traffic.world
      fits (task.commandBus.attempt index next.1) (traffic.advance registry index task moment).journal next.1.phase)
    (move : Move Data Handlers State Command) : (traffic.step registry move).Each fits := by
  cases move with
  | start commandBus moment command =>
    intro index task found
    simp only [Traffic.step, List.getElem?_append] at found
    split at found
    · exact each index task found
    next beyond =>
      rw [List.mem_singleton.mp (List.mem_of_getElem? found)]
      apply fresh _ _ rfl
      intro entry member
      have before := known entry member
      change entry.attempt.index ≠ index
      omega
  | step index moment =>
    simp only [Traffic.step]
    split
    · exact each
    next task found =>
      split
      · exact each
      · intro other otherTask otherFound
        change (traffic.tasks.set index _)[other]? = some otherTask at otherFound
        by_cases same : index = other
        · subst same
          rw [List.getElem?_set_self (List.getElem?_eq_some_iff.mp found).1] at otherFound
          cases otherFound
          exact own index task moment found
        · rw [List.getElem?_set_ne same] at otherFound
          apply frame _ _ _ _ (each other otherTask otherFound)
          intro entry member
          rw [Attempt.of_mem_entries member]
          exact same
  | drop index =>
    intro other task found
    simp only [Traffic.step, List.getElem?_modify] at found
    obtain ⟨old, oldFound, rfl⟩ := Option.map_eq_some_iff.mp found
    have before := each other old oldFound
    split <;> exact before
  | interlude interlude => exact each

theorem step_of_live {index : Nat} {task : Task Data Handlers State Command} {moment : Moment}
    (found : traffic.tasks[index]? = some task) (live : task.dropped = false) :
    traffic.step registry (.step index moment) = traffic.advance registry index task moment := by
  simp only [step, found, live, Bool.false_eq_true, if_false]

theorem step_of_dropped {index : Nat} {task : Task Data Handlers State Command} {moment : Moment}
    (found : traffic.tasks[index]? = some task) (dropped : task.dropped = true) :
    traffic.step registry (.step index moment) = traffic := by
  simp only [step, found, dropped, if_true]

theorem step_of_missing {index : Nat} {moment : Moment} (missing : traffic.tasks[index]? = none) :
    traffic.step registry (.step index moment) = traffic := by
  simp only [step, missing]

/-- What holds of every dispatch in its surroundings before a move holds of it in those behind the move. -/
theorem tasks_step (before after : Nat → CommandBus Data Handlers State Command → Dispatch Data State Command → Prop)
    (move : Move Data Handlers State Command)
    (each : ∀ index task, traffic.tasks[index]? = some task → before index task.commandBus task.dispatch)
    (fresh : ∀ commandBus moment command, move = .start commandBus moment command →
      after traffic.tasks.length commandBus (Dispatch.start (commandBus.engine registry 1) moment command))
    (frame : ∀ index task, traffic.tasks[index]? = some task →
      (∀ moment, move = .step index moment → task.dropped = true) → before index task.commandBus task.dispatch →
        after index task.commandBus task.dispatch)
    (own : ∀ index task moment, move = .step index moment → traffic.tasks[index]? = some task →
      task.dropped = false → after index task.commandBus
        (task.dispatch.step (task.commandBus.engine registry task.dispatch.attempt) moment traffic.world).1) :
    ∀ index task, (traffic.step registry move).tasks[index]? = some task →
      after index task.commandBus task.dispatch := by
  intro index task found
  have stay (old : Task Data Handlers State Command) (there : traffic.tasks[index]? = some old)
      (still : ∀ moment, move = .step index moment → old.dropped = true) : after index old.commandBus old.dispatch :=
    frame index old there still (each index old there)
  cases move with
  | start commandBus moment command =>
    simp only [Traffic.step, List.getElem?_append] at found
    split at found
    next old => exact stay task found nofun
    next beyond =>
      rw [List.mem_singleton.mp (List.mem_of_getElem? found)]
      have last : index = traffic.tasks.length := by
        have within := (List.getElem?_eq_some_iff.mp found).1
        rw [List.length_singleton] at within
        omega
      rw [last]
      exact fresh commandBus moment command rfl
  | step other moment =>
    simp only [Traffic.step] at found
    split at found
    next missing =>
      refine stay task found fun again same => ?_
      cases same
      rw [missing] at found
      cases found
    next walker there =>
      split at found
      next dropped =>
        refine stay task found fun again same => ?_
        cases same
        rw [there] at found
        cases found
        exact dropped
      next live =>
        change (traffic.tasks.set other _)[index]? = some task at found
        by_cases same : other = index
        · subst same
          rw [List.getElem?_set_self (List.getElem?_eq_some_iff.mp there).1] at found
          cases found
          exact own other walker moment rfl there (Bool.eq_false_iff.mpr live)
        · rw [List.getElem?_set_ne same] at found
          exact stay task found fun again clash => absurd (Move.step.inj clash).1 same
  | drop other =>
    simp only [Traffic.step, List.getElem?_modify] at found
    obtain ⟨old, there, rfl⟩ := Option.map_eq_some_iff.mp found
    have kept := stay old there nofun
    split <;> exact kept
  | interlude interlude => exact stay task found nofun

theorem journal_step (registry : EventRegistry Data) (traffic : Traffic Data Handlers State Command)
    (move : Move Data Handlers State Command) :
    traffic.journal <+: (traffic.step registry move).journal := by
  cases move with
  | start commandBus moment command => exact List.prefix_rfl
  | step index moment =>
    simp only [step]
    split
    · exact List.prefix_rfl
    · split
      · exact List.prefix_rfl
      · exact List.prefix_append ..
  | drop index => exact List.prefix_rfl
  | interlude interlude => exact List.prefix_rfl

theorem journal_run (registry : EventRegistry Data) (traffic : Traffic Data Handlers State Command)
    (moves : List (Move Data Handlers State Command)) :
    traffic.journal <+: (traffic.run registry moves).journal := by
  induction moves generalizing traffic with
  | nil => exact List.prefix_rfl
  | cons move rest ih => exact (traffic.journal_step registry move).trans (ih _)

end Traffic

end Inventory
